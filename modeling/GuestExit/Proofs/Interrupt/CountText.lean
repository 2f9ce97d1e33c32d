import GuestExit.Proofs.Vm.ReadBack

/-!
# The text of the counts loses nothing

The counts are written with a line for each vector that was seen, and no line for the others. So a
line is not known by its place: it says itself which vector it is about, in a column that any vector
fills exactly, and what stands behind the column is the count. `Counts.ofText` reads the whole table
back, and a vector that no line is about was not seen. Two tables with the same text are the same
table.
-/

namespace GuestExit.Interrupt

open Text (linesOf)

namespace Counts

/-! ## The vectors that have a line -/

/-- The vectors that were seen, ascending. -/
def seen (c : Counts) : List UInt8 :=
  vectors.filter fun w => c.get w ≠ 0

theorem mem_seen {c : Counts} {w : UInt8} : w ∈ c.seen ↔ c.get w ≠ 0 := by
  unfold seen
  rw [List.mem_filter, decide_eq_true_eq]
  exact and_iff_right (mem_vectors w)

theorem pairwise_seen (c : Counts) : c.seen.Pairwise (· < ·) :=
  pairwise_vectors.filter _

theorem nonzero_eq (c : Counts) : c.nonzero = c.seen.map fun w => (w, c.get w) := by
  unfold nonzero seen
  rw [List.filter_map]
  rfl

theorem lines_eq (c : Counts) :
    c.lines = "External interrupt counts" :: c.seen.map fun w => words w (c.get w) := by
  unfold lines
  rw [nonzero_eq, List.map_map]
  rfl

/-! ## Reading the counts -/

/-- The counts that a text gives. -/
def ofText (text : String) : Counts where
  table := .ofFn fun i => .ofNat (readCount (.ofNat i.val) (linesOf text))

theorem get_ofText (text : String) (w : UInt8) :
    (ofText text).get w = .ofNat (readCount w (linesOf text)) := by
  simp [ofText, get, slot]

/-- A table is known by what it says of each vector. -/
theorem ext_get {c c' : Counts} (h : ∀ w, c.get w = c'.get w) : c = c' := by
  have hget : ∀ (c : Counts) (i : Nat) (hi : i < 256), c.get (.ofNat i) = c.table[i] := by
    intro c i hi
    simp [get, slot, Nat.mod_eq_of_lt hi]
  obtain ⟨table⟩ := c
  obtain ⟨table'⟩ := c'
  congr 1
  refine Vector.ext fun i hi => ?_
  rw [← hget ⟨table⟩ i hi, ← hget ⟨table'⟩ i hi]
  exact h _

/-- **The counts are read from their text as they were.** -/
theorem ofText_text (c : Counts) : ofText c.text = c := by
  refine ext_get fun w => ?_
  rw [get_ofText, linesOf_text, readCount_lines, UInt64.ofNat_toNat]

theorem text_inj {c c' : Counts} : c.text = c'.text ↔ ∀ w, c.get w = c'.get w := by
  constructor
  · intro h w
    rw [← ofText_text c, h, ofText_text]
  · exact fun h => congrArg text (ext_get h)

end Counts

variable {σ : Type}

/--
**The text of the counts loses nothing.** A sink without a bound takes all of it. Behind the title
it has one line for each vector that was seen, the vectors ascending, which gives the vector and its
count; there are no other lines. The whole table is read back from the text, so two virtualizers
write the same exactly if all their counts are the same.
-/
theorem count_text_loses_nothing (v v' : Virtualizer σ) (held : String) :
    v.counts.writeTo { text := held } = .complete (held ++ v.counts.text)
      ∧ (∃ seen : List UInt8,
        linesOf v.counts.text
            = "External interrupt counts" :: seen.map (fun w => Counts.words w (v.counts.get w))
          ∧ seen.Pairwise (· < ·)
          ∧ ∀ w, w ∈ seen ↔ v.counts.get w ≠ 0)
      ∧ (∀ w n, Counts.readLine (Counts.words w n) = (w.toNat, n.toNat))
      ∧ Counts.ofText v.counts.text = v.counts
      ∧ (v.counts.writeTo { text := held } = v'.counts.writeTo { text := held }
        ↔ ∀ w, v.counts.get w = v'.counts.get w) := by
  refine ⟨v.counts.writeTo_unbounded held, ⟨v.counts.seen, ?_, v.counts.pairwise_seen,
    fun _ => Counts.mem_seen⟩, Counts.readLine_words, v.counts.ofText_text, ?_⟩
  · rw [Counts.linesOf_text, Counts.lines_eq]
  · rw [Counts.writeTo_unbounded, Counts.writeTo_unbounded, Text.Delivery.complete.injEq,
      String.append_right_inj, Counts.text_inj]

end GuestExit.Interrupt
