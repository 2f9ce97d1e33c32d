/-!
# Sinks

Text is handed over piece by piece. A sink takes each piece whole or refuses it, and a refusal
changes nothing: the sink is there for the next piece, and takes it if that one fits. So what a sink
holds in the end is up to the writer.

A writer is a program whose steps have a result. A step is taken only if the one before was not
refused, so a refusal ends the writer, however deep in its loops it happens. It does not
know what it is writing into (`Writable`).
-/

namespace GuestExit.Text

/-- Why a step of writing was not done. -/
inductive Refusal where
  | refused
  deriving DecidableEq, Repr

/-- A step of writing into an `S`. Whether it is done or refused, the `S` it leaves can be written
into. -/
abbrev Writing (S : Type) : Type → Type := EStateM Refusal S

/-- Something text is written into. -/
class Writable (S : Type) where
  /-- Hands over a piece of text. -/
  put : String → Writing S Unit

export Writable (put)

variable {S : Type} [Writable S]

/-- Hands over pieces in order. -/
def putAll (pieces : List String) : Writing S Unit :=
  pieces.forM put

/-- Pieces in a row are handed over like a program of two steps. -/
theorem putAll_append (a b : List String) :
    (putAll (a ++ b) : Writing S Unit) = (do putAll a; putAll b) :=
  List.forM_append

/-- The pieces of many things are handed over like a loop over the things. -/
theorem putAll_flatMap {α : Type} (l : List α) (pieces : α → List String) :
    (putAll (l.flatMap pieces) : Writing S Unit) = l.forM fun a => putAll (pieces a) := by
  induction l with
  | nil => rfl
  | cons a rest ih =>
    rw [List.flatMap_cons, putAll_append, ih]
    rfl

/-- A text of bounded size, in the making. -/
structure Sink where
  /-- The most bytes of UTF-8 it takes in all, if there is a bound. -/
  limit : Option Nat := none
  /-- What it has taken so far. -/
  text : String := ""
  deriving DecidableEq, Repr

/-- The outcome of writing a whole text. -/
inductive Delivery where
  /-- Every piece was taken, and the sink now holds `text`. -/
  | complete (text : String)
  /-- A piece was refused, and the sink was left with what it `held`. -/
  | refused (held : String)
  deriving DecidableEq, Repr

namespace Sink

/-- A piece is taken if the total stays within the limit. -/
def accepts (s : Sink) (piece : String) : Bool :=
  match s.limit with
  | none => true
  | some n => s.text.utf8ByteSize + piece.utf8ByteSize ≤ n

instance : Writable Sink where
  put piece s :=
    if s.accepts piece then .ok () { s with text := s.text ++ piece } else .error .refused s

/-- What comes of a writer. -/
def deliver (s : Sink) (x : Writing Sink Unit) : Delivery :=
  match x s with
  | .ok () s => .complete s.text
  | .error .refused s => .refused s.text

/-- Writes pieces in order, up to the first that is refused. -/
def write (s : Sink) (pieces : List String) : Delivery :=
  s.deliver (putAll pieces)

/-- A piece that is refused ends the writer. -/
theorem write_cons (s : Sink) (piece : String) (rest : List String) :
    s.write (piece :: rest) =
      if s.accepts piece then { s with text := s.text ++ piece }.write rest
      else .refused s.text := by
  have hput : put piece s = if s.accepts piece then .ok () { s with text := s.text ++ piece }
    else .error .refused s := rfl
  have hrun : putAll (piece :: rest) s = EStateM.bind (put piece) (fun _ => putAll rest) s := rfl
  unfold write deliver
  rw [hrun, EStateM.bind, hput]
  cases s.accepts piece <;> rfl

end Sink

/-- A writer that passes over a refusal leaves a hole in the text. -/
example : Sink.deliver { limit := some 3 } (do
      put "a"
      tryCatch (put "bcd") fun _ => pure ()
      put "e") = .complete "ae" := by
  decide

end GuestExit.Text
