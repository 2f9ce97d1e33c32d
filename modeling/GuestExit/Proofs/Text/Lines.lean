import GuestExit.Text.Line
import GuestExit.Text.Numeral
import GuestExit.Text.Sink

/-!
# Texts that are written line by line

The records of both virtualizers are written line by line, each line ended by a line feed.
`linesOf` cuts such a text into the same lines again (`linesOf_join`), as long as no line has a
line feed of its own. Their lines have nothing of the kind (`Printable`): the fixed parts plainly
have not, and every character of the numerals between them is a digit, a space, or the `x` of
`0x`.
-/

namespace GuestExit.Text

/-- A text without line feeds. -/
def OneLine (s : String) : Prop := '\n' ∉ s.toList

/-- A text without characters that come before the space, in particular without any that ends a
line. -/
def Printable (s : String) : Prop := ∀ c ∈ s.toList, 32 ≤ c.toNat

instance (s : String) : Decidable (Printable s) :=
  decidable_of_iff (s.toList.all fun c => 32 ≤ c.toNat) (by simp [Printable])

theorem Printable.oneLine {s : String} (h : Printable s) : OneLine s :=
  fun hm => absurd (h _ hm) (by decide)

theorem Printable.append {s t : String} (hs : Printable s) (ht : Printable t) :
    Printable (s ++ t) := by
  intro c hc
  rw [String.toList_append] at hc
  rcases List.mem_append.mp hc with h | h
  · exact hs c h
  · exact ht c h

theorem printable_ofList {l : List Char} (h : ∀ c ∈ l, 32 ≤ c.toNat) : Printable (String.ofList l) := by
  unfold Printable
  rwa [String.toList_ofList]

/-! ## Numerals -/

theorem printable_digitChar (d : Nat) : 32 ≤ d.digitChar.toNat := by
  by_cases h : d < 16
  · have hall : ∀ d : Fin 16, 32 ≤ d.val.digitChar.toNat := by decide
    exact hall ⟨d, h⟩
  · -- there is no digit for so large a number, but a character all the same
    have hstar : d.digitChar = '*' := Nat.digitChar_eq_star.mpr (by omega)
    rw [hstar]
    decide

theorem printable_toDigits {base : Nat} (hb : 1 < base) (n : Nat) :
    ∀ c ∈ Nat.toDigits base n, 32 ≤ c.toNat := by
  -- the last digit apart, what is left is a smaller number
  induction n using Nat.strongRecOn with
  | _ n ih =>
    intro c hc
    rw [Nat.toDigits_eq_if hb] at hc
    split at hc
    · rw [List.mem_singleton.mp hc]
      exact printable_digitChar n
    · next h =>
      have hlt : n / base < n := Nat.div_lt_self (by omega) hb
      rcases List.mem_append.mp hc with hm | hm
      · exact ih _ hlt c hm
      · rw [List.mem_singleton.mp hm]
        exact printable_digitChar _

theorem printable_leftpad {l : List Char} (h : ∀ c ∈ l, 32 ≤ c.toNat) (width : Nat) {pad : Char}
    (hpad : 32 ≤ pad.toNat) : ∀ c ∈ l.leftpad width pad, 32 ≤ c.toNat := by
  intro c hc
  unfold List.leftpad at hc
  rcases List.mem_append.mp hc with hm | hm
  · rw [List.eq_of_mem_replicate hm]
    exact hpad
  · exact h c hm

theorem printable_hex (n : Nat) : Printable (hex n) :=
  Printable.append (by decide) (printable_ofList (printable_toDigits (by decide) n))

theorem printable_hexWord (n : Nat) : Printable (hexWord n) :=
  Printable.append (by decide)
    (printable_ofList (printable_leftpad (printable_toDigits (by decide) n) 16 (by decide)))

theorem printable_column (width n : Nat) : Printable (column width n) :=
  printable_ofList (printable_leftpad (printable_toDigits (by decide) n) width (by decide))

theorem printable_toString (n : Nat) : Printable (toString n) := by
  rw [Nat.toString_eq_ofList_toDigits]
  exact printable_ofList (printable_toDigits (by decide) n)

/-! ## Lines -/

/-- Characters in front of a line feed make up the first line. -/
theorem foldr_prependToLines {line : List Char} (h : '\n' ∉ line) (first : List Char)
    (rest : List (List Char)) :
    line.foldr prependToLines (first :: rest) = (line ++ first) :: rest := by
  induction line with
  | nil => rfl
  | cons c line ih =>
    have hc : c ≠ '\n' := fun e => h (e ▸ List.mem_cons_self)
    rw [List.foldr_cons, ih fun hl => h (List.mem_cons_of_mem c hl)]
    simp [prependToLines, hc]

theorem linesOf_append {line : String} (h : OneLine line) (rest : String) :
    linesOf (line ++ "\n" ++ rest) = line :: linesOf rest := by
  unfold linesOf
  rw [String.toList_append, String.toList_append, List.foldr_append, List.foldr_append]
  have hfeed : "\n".toList.foldr prependToLines (rest.toList.foldr prependToLines [])
      = [] :: rest.toList.foldr prependToLines [] := rfl
  rw [hfeed, foldr_prependToLines h, List.map_cons, List.append_nil, String.ofList_toList]

/-- **A text that was written line by line has those lines.** -/
theorem linesOf_join {lines : List String} (h : ∀ line ∈ lines, OneLine line) :
    linesOf (String.join (lines.map (· ++ "\n"))) = lines := by
  induction lines with
  | nil => rfl
  | cons line rest ih =>
    rw [List.map_cons, String.join_cons, linesOf_append (h line List.mem_cons_self),
      ih fun l hl => h l (List.mem_cons_of_mem line hl)]

/-! ## Pieces -/

/-- The pieces of many things make up their texts, one behind the other. -/
theorem join_flatMap {α : Type} (l : List α) (pieces : α → List String) :
    String.join (l.flatMap pieces) = String.join (l.map fun a => String.join (pieces a)) := by
  induction l with
  | nil => rfl
  | cons a rest ih => rw [List.flatMap_cons, String.join_append, ih, List.map_cons, String.join_cons]

/-! ## Sinks -/

/-- **A sink without a bound takes all pieces**, behind what it held before. -/
theorem Sink.write_unbounded (held : String) (pieces : List String) :
    Sink.write { text := held } pieces = .complete (held ++ String.join pieces) := by
  induction pieces generalizing held with
  | nil => exact congrArg Delivery.complete (String.append_empty).symm
  | cons piece rest ih =>
    rw [write_cons, String.join_cons, ← String.append_assoc]
    exact ih (held ++ piece)

theorem Sink.write_empty (pieces : List String) :
    Sink.write {} pieces = .complete (String.join pieces) :=
  (Sink.write_unbounded "" pieces).trans (congrArg Delivery.complete String.empty_append)

end GuestExit.Text
