import GuestExit.Text.Numeral
import GuestExit.Text.Sink

/-!
# Counting interrupts

While logging is on, every interrupt that exits is counted by its vector. Written
out, the counts have a title and one line for each vector that was seen, in
ascending order.
-/

namespace GuestExit.Interrupt

open Text (Writable Writing putAll columnPieces hexPieces)

/-- How often each vector was seen, modulo 2^64. -/
structure Counts where
  table : Vector UInt64 256 := .replicate 256 0
  deriving DecidableEq, Repr

namespace Counts

instance : Inhabited Counts := ⟨{}⟩

/-- Where the count of a vector stands in the table. -/
def slot (vector : UInt8) : Fin 256 :=
  ⟨vector.toNat, vector.toNat_lt⟩

/-- How often a vector was seen. -/
def get (c : Counts) (vector : UInt8) : UInt64 :=
  c.table[slot vector]

/-- Counts a vector once more. -/
def bump (c : Counts) (vector : UInt8) : Counts :=
  ⟨c.table.set (slot vector).val (c.get vector + 1) (slot vector).isLt⟩

theorem get_bump (c : Counts) (v w : UInt8) :
    (c.bump v).get w = if w = v then c.get w + 1 else c.get w := by
  by_cases e : w = v
  · subst e
    simp [bump, get]
  · have : ¬ (slot v).val = (slot w).val := fun h => e (UInt8.toNat_inj.mp h.symm)
    simp [bump, get, e, this]

/-- All vectors, ascending. -/
def vectors : List UInt8 :=
  (List.range 256).map UInt8.ofNat

/-- The vectors that were seen, ascending, with their counts. -/
def nonzero (c : Counts) : List (UInt8 × UInt64) :=
  (vectors.map fun v => (v, c.get v)).filter fun p => p.2 ≠ 0

/-- The pieces of the line of a vector and its count. -/
def linePieces (vector : UInt8) (count : UInt64) : List String :=
  ["  "] ++ columnPieces 3 vector.toNat ++ [": "] ++ hexPieces count.toNat ++ ["\n"]

/-- Writes the counts: their title, and a line for each vector seen. -/
def write {S : Type} [Writable S] (c : Counts) : Writing S Unit := do
  putAll ["External interrupt counts\n"]
  c.nonzero.forM fun p => putAll (linePieces p.1 p.2)

/-- The pieces of the counts. -/
def pieces (c : Counts) : List String :=
  ["External interrupt counts\n"] ++ c.nonzero.flatMap fun p => linePieces p.1 p.2

/-- **Whatever they are written into, the counts are handed over in their pieces**, in order. -/
theorem write_eq {S : Type} [Writable S] (c : Counts) :
    (c.write : Writing S Unit) = putAll c.pieces := by
  simp only [write, pieces, Text.putAll_append, Text.putAll_flatMap]

/-- The whole text of the counts. -/
def text (c : Counts) : String :=
  String.join c.pieces

/-- Writes the counts into a sink. -/
def writeTo (c : Counts) (sink : Text.Sink) : Text.Delivery :=
  sink.deliver c.write

theorem writeTo_eq (c : Counts) (sink : Text.Sink) : c.writeTo sink = sink.write c.pieces :=
  congrArg sink.deliver c.write_eq

end Counts

end GuestExit.Interrupt
