import GuestExit.ControlRegister.ExitLog
import GuestExit.Interrupt.Counts
import GuestExit.Log.Record
import GuestExit.Proofs.Text.Lines

/-!
# Sinks with a limit

A sink with a limit refuses a piece that would take it beyond the limit, but only that piece: a
shorter one that comes later would still be taken. So whether a text is cut off or has a hole in it
is up to the writer, which has to stop at the first refusal, in whichever of its loops that happens.

`Bounded` says what has to come of it. The text is taken exactly if it fits as a whole, and
otherwise the sink holds a beginning of it, up to the first piece that was too long. How a text is
cut into pieces decides where it ends then, but not whether it fits. What a sink holds does not
tell what else it was offered, so a sink is watched (`Watched`): nothing must come after the piece
that it refused.
-/

namespace GuestExit

namespace Text

/-- A sink, and all that it was offered, whether it took it or not. -/
structure Watched where
  sink : Sink
  offered : List String := []
  deriving DecidableEq, Repr

instance : Writable Watched where
  put piece w :=
    let offered := w.offered ++ [piece]
    match put piece w.sink with
    | .ok () sink => .ok () { sink, offered }
    | .error e sink => .error e { sink, offered }

/-- All that a writer offers to a sink. -/
def Sink.offered (s : Sink) (x : Writing Watched Unit) : List String :=
  match x { sink := s } with
  | .ok () w | .error _ w => w.offered

/-- What becomes of a text that is handed over in pieces, if an empty sink takes `limit` bytes at
most. -/
structure Bounded (limit : Nat) (text : String) (pieces : List String) (d : Delivery)
    (offered : List String) : Prop where
  complete_iff : d = .complete text ↔ text.utf8ByteSize ≤ limit
  refused_iff : (∃ held, d = .refused held) ↔ limit < text.utf8ByteSize
  /-- What a sink holds that refused a piece is a beginning of the text, -/
  beginning : ∀ held, d = .refused held → ∃ rest, text = held ++ rest
  /-- namely the pieces in front of the first one that does not fit, which is the last that it was
  offered. -/
  cut : ∀ held, d = .refused held → ∃ taken piece rest,
    pieces = taken ++ piece :: rest ∧ held = String.join taken
      ∧ held.utf8ByteSize ≤ limit ∧ limit < held.utf8ByteSize + piece.utf8ByteSize
      ∧ offered = taken ++ [piece]

namespace Sink

variable {limit : Nat}

/-- **What is written in parts goes on only if nothing was refused**, so a refusal ends all that is
written, however deep inside it happens. -/
theorem write_append (s : Sink) (a b : List String) :
    s.write (a ++ b) = match s.write a with
      | .complete held => { s with text := held }.write b
      | .refused held => .refused held := by
  induction a generalizing s with
  | nil => rfl
  | cons piece a ih =>
    rw [List.cons_append, write_cons, write_cons]
    split
    · exact ih _
    · rfl

theorem accepts_iff {held piece : String} :
    Sink.accepts { limit := some limit, text := held } piece = true ↔
      held.utf8ByteSize + piece.utf8ByteSize ≤ limit :=
  decide_eq_true_iff

/-- A piece that fits is taken. -/
theorem write_cons_of_le {held piece : String}
    (h : held.utf8ByteSize + piece.utf8ByteSize ≤ limit) (rest : List String) :
    Sink.write { limit := some limit, text := held } (piece :: rest)
      = Sink.write { limit := some limit, text := held ++ piece } rest := by
  rw [write_cons]
  exact if_pos (accepts_iff.mpr h)

/-- A writer stops at a piece that does not fit. -/
theorem write_cons_of_lt {held piece : String}
    (h : limit < held.utf8ByteSize + piece.utf8ByteSize) (rest : List String) :
    Sink.write { limit := some limit, text := held } (piece :: rest) = .refused held := by
  rw [write_cons]
  exact if_neg (mt accepts_iff.mp (Nat.not_le.mpr h))

/-- Pieces that fit together are all taken. -/
theorem write_of_le {held : String} {pieces : List String}
    (h : held.utf8ByteSize + (String.join pieces).utf8ByteSize ≤ limit) :
    Sink.write { limit := some limit, text := held } pieces
      = .complete (held ++ String.join pieces) := by
  induction pieces generalizing held with
  | nil => exact congrArg Delivery.complete (String.append_empty).symm
  | cons piece pieces ih =>
    rw [String.join_cons, String.utf8ByteSize_append] at h
    have hothers : (held ++ piece).utf8ByteSize + (String.join pieces).utf8ByteSize ≤ limit := by
      rw [String.utf8ByteSize_append]
      omega
    rw [write_cons_of_le (by omega), ih hothers, String.join_cons, String.append_assoc]

/-- Among pieces that do not fit together there is a first one that does not fit. -/
theorem exists_first_too_long {pieces : List String} {size : Nat} (hsize : size ≤ limit)
    (h : limit < size + (String.join pieces).utf8ByteSize) :
    ∃ taken piece rest, pieces = taken ++ piece :: rest
      ∧ size + (String.join taken).utf8ByteSize ≤ limit
      ∧ limit < size + (String.join taken).utf8ByteSize + piece.utf8ByteSize := by
  induction pieces generalizing size with
  | nil =>
    rw [String.join_nil] at h
    exact absurd h (by simpa using hsize)
  | cons piece pieces ih =>
    rw [String.join_cons, String.utf8ByteSize_append] at h
    by_cases hfits : size + piece.utf8ByteSize ≤ limit
    · obtain ⟨taken, next, rest, rfl, hle, hlt⟩ := ih hfits (by omega)
      refine ⟨piece :: taken, next, rest, rfl, ?_, ?_⟩
      · rw [String.join_cons, String.utf8ByteSize_append]
        omega
      · rw [String.join_cons, String.utf8ByteSize_append]
        omega
    · exact ⟨[], piece, pieces, rfl, by simpa using hsize, by simpa using hfits⟩

/-! ### Under watch -/

/-- A piece is offered before it is taken or refused, and a refusal ends the writer. -/
theorem putAll_watched (s : Sink) (before : List String) (piece : String) (rest : List String) :
    putAll (piece :: rest) (Watched.mk s before)
      = if s.accepts piece then
          putAll rest (Watched.mk { s with text := s.text ++ piece } (before ++ [piece]))
        else .error .refused (Watched.mk s (before ++ [piece])) := by
  have hput : put piece (Watched.mk s before)
      = if s.accepts piece then
          .ok () (Watched.mk { s with text := s.text ++ piece } (before ++ [piece]))
        else .error .refused (Watched.mk s (before ++ [piece])) := by
    simp only [put]
    cases s.accepts piece <;> rfl
  have hrun : putAll (piece :: rest) (Watched.mk s before)
      = EStateM.bind (put piece) (fun _ => putAll rest) (Watched.mk s before) := rfl
  rw [hrun, EStateM.bind, hput]
  cases s.accepts piece <;> rfl

/-- Pieces that fit together are offered one after another, and so are those that follow. -/
theorem putAll_watched_of_le {held : String} {pieces : List String}
    (h : held.utf8ByteSize + (String.join pieces).utf8ByteSize ≤ limit)
    (before rest : List String) :
    putAll (pieces ++ rest) (Watched.mk { limit := some limit, text := held } before)
      = putAll rest (Watched.mk { limit := some limit, text := held ++ String.join pieces }
        (before ++ pieces)) := by
  induction pieces generalizing held before with
  | nil => simp
  | cons piece pieces ih =>
    rw [String.join_cons, String.utf8ByteSize_append] at h
    have hfits : held.utf8ByteSize + piece.utf8ByteSize ≤ limit := by omega
    have hothers : (held ++ piece).utf8ByteSize + (String.join pieces).utf8ByteSize ≤ limit := by
      rw [String.utf8ByteSize_append]
      omega
    rw [List.cons_append, putAll_watched, if_pos (accepts_iff.mpr hfits), ih hothers,
      String.join_cons, String.append_assoc, List.append_assoc, List.singleton_append]

/-- **Nothing is offered after a piece that is refused.** -/
theorem offered_putAll {taken : List String} {piece : String}
    (hle : (String.join taken).utf8ByteSize ≤ limit)
    (hlt : limit < (String.join taken).utf8ByteSize + piece.utf8ByteSize) (rest : List String) :
    Sink.offered { limit := some limit } (putAll (taken ++ piece :: rest)) = taken ++ [piece] := by
  unfold offered
  rw [putAll_watched_of_le (by simpa using hle), String.empty_append, List.nil_append,
    putAll_watched, if_neg (mt accepts_iff.mp (Nat.not_le.mpr hlt))]

/-! ### A text and a limit -/

/-- **A sink with a limit takes a text exactly if it fits**, and otherwise what comes before the
first piece that does not, and is offered no more. -/
theorem write_bounded (limit : Nat) (pieces : List String) :
    Bounded limit (String.join pieces) pieces (Sink.write { limit := some limit } pieces)
      (Sink.offered { limit := some limit } (putAll pieces)) := by
  by_cases hfits : (String.join pieces).utf8ByteSize ≤ limit
  · have hwhole : Sink.write { limit := some limit } pieces = .complete (String.join pieces) := by
      rw [write_of_le (by simpa using hfits), String.empty_append]
    rw [hwhole]
    exact {
      complete_iff := iff_of_true rfl hfits
      refused_iff := iff_of_false (by simp) (by omega)
      beginning := by simp
      cut := by simp }
  · have hlong : limit < 0 + (String.join pieces).utf8ByteSize := by omega
    obtain ⟨taken, piece, rest, rfl, hle, hlt⟩ := exists_first_too_long (Nat.zero_le limit) hlong
    rw [Nat.zero_add] at hle hlt
    have hcut : Sink.write { limit := some limit } (taken ++ piece :: rest)
        = .refused (String.join taken) := by
      rw [write_append, write_of_le (by simpa using hle), String.empty_append]
      exact write_cons_of_lt hlt rest
    rw [hcut]
    refine {
      complete_iff := iff_of_false (by simp) hfits
      refused_iff := iff_of_true ⟨_, rfl⟩ (by omega)
      beginning := ?_
      cut := ?_ }
    · rintro _ ⟨⟩
      exact ⟨_, String.join_append⟩
    · rintro _ ⟨⟩
      exact ⟨taken, piece, rest, rfl, rfl, hle, hlt, offered_putAll hle hlt rest⟩

/-- **A writer that hands over some pieces in order**, whatever it writes into, gets their text to a
sink without a limit, and to one with a limit as much of it as fits. -/
theorem deliver_bounded (limit : Nat) {write : {S : Type} → [Writable S] → Writing S Unit}
    {pieces : List String}
    (h : ∀ {S : Type} [Writable S], (write : Writing S Unit) = putAll pieces) :
    Sink.deliver {} write = .complete (String.join pieces)
      ∧ Bounded limit (String.join pieces) pieces (Sink.deliver { limit := some limit } write)
        (Sink.offered { limit := some limit } write) := by
  rw [h, h]
  exact ⟨write_empty pieces, write_bounded limit pieces⟩

end Sink

end Text

/-- How a message is cut into pieces makes no difference to its line. -/
theorem Record.text_eq_join_linePieces (vcpu : UInt32) (level : Level) (message : List String) :
    text { vcpu, level, message := String.join message }
      = String.join (linePieces vcpu level message) := by
  simp [text, pieces, linePieces]

/--
**A limit never leaves a hole.** Whatever is written, the log of control register accesses, the
counts of interrupts or a line of the log with a message in any pieces, a sink with a limit refuses
it exactly if the text that a sink without a limit takes is longer than that. It holds all of the
text if it does not refuse, and otherwise a beginning of it, and it is offered nothing after the
first piece that it refused, although it would have taken a shorter one. It is the writers that
stop: each of them hands over its pieces in order, whatever it writes into, and a refusal ends it.
-/
theorem limit_never_leaves_a_hole (limit : Nat) (log : ControlRegister.ExitLog)
    (counts : Interrupt.Counts) (vcpu : UInt32) (level : Level) (message : List String) :
    let bounded : Text.Sink := { limit := some limit }
    let r : Record := { vcpu, level, message := String.join message }
    (log.writeTo {} = .complete log.text
        ∧ Text.Bounded limit log.text log.pieces (log.writeTo bounded) (bounded.offered log.write))
      ∧ (counts.writeTo {} = .complete counts.text
        ∧ Text.Bounded limit counts.text counts.pieces (counts.writeTo bounded)
          (bounded.offered counts.write))
      ∧ (Text.Sink.deliver {} (Record.writeLine vcpu level message) = .complete r.text
        ∧ Text.Bounded limit r.text (Record.linePieces vcpu level message)
          (bounded.deliver (Record.writeLine vcpu level message))
          (bounded.offered (Record.writeLine vcpu level message)))
      ∧ ∀ {S : Type} [Text.Writable S],
        (log.write : Text.Writing S Unit) = Text.putAll log.pieces
          ∧ (counts.write : Text.Writing S Unit) = Text.putAll counts.pieces
          ∧ (Record.writeLine vcpu level message : Text.Writing S Unit)
            = Text.putAll (Record.linePieces vcpu level message) := by
  intro bounded r
  have htext : r.text = String.join (Record.linePieces vcpu level message) :=
    Record.text_eq_join_linePieces vcpu level message
  rw [htext]
  exact ⟨Text.Sink.deliver_bounded limit log.write_eq,
    Text.Sink.deliver_bounded limit counts.write_eq,
    Text.Sink.deliver_bounded limit (Record.writeLine_eq vcpu level message),
    log.write_eq, counts.write_eq, Record.writeLine_eq vcpu level message⟩

/-- The heading is cut off behind the number of records. -/
example : ControlRegister.ExitLog.writeTo {} { limit := some 40 }
    = .refused "Control register exit log\n  CR0 (0" := by
  decide

/-- The message is refused, by a byte. The line feed behind it would still fit. -/
example : Record.writeTo ⟨2, .warn, "é"⟩ { limit := some 14 } = .refused "vcpu-2 WARN: " := by
  decide

end GuestExit
