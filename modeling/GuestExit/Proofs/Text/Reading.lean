import GuestExit.Text.Numeral

/-!
# Reading texts back

What it takes to find something again in a text that was written line by line: to know a line by
how it begins (`opens`), and to get back the number that a numeral stands for (`numeral`). One
reading does for all three ways of writing a number, since neither leading zeros nor leading blanks
count for anything.
-/

namespace GuestExit.Text

/-! ## How a line begins -/

/-- Whether a line begins with `start`. -/
def opens (start line : String) : Bool :=
  start.toList.isPrefixOf line.toList

/-- How a line begins is settled by any part of it that is long enough. -/
theorem opens_append_of_le {start line : String} (h : start.toList.length ≤ line.toList.length)
    (rest : String) : opens start (line ++ rest) = opens start line := by
  unfold opens
  rw [Bool.eq_iff_iff, List.isPrefixOf_iff_prefix, List.isPrefixOf_iff_prefix, String.toList_append]
  constructor
  · intro hlong
    exact List.prefix_of_prefix_length_le hlong (List.prefix_append _ _) h
  · intro hshort
    exact hshort.trans (List.prefix_append _ _)

/-! ## Numerals -/

/-- The value of a digit. A blank counts for nothing, like a zero. -/
def digitValue (c : Char) : Nat :=
  if c.toNat < 58 then c.toNat - 48 else c.toNat - 87

/-- The number that digits stand for. -/
def numeral (base : Nat) (digits : List Char) : Nat :=
  digits.foldl (fun n c => base * n + digitValue c) 0

theorem digitValue_digitChar {d : Nat} (h : d < 16) : digitValue d.digitChar = d := by
  have hall : ∀ d : Fin 16, digitValue d.val.digitChar = d.val := by decide
  exact hall ⟨d, h⟩

theorem numeral_concat (base : Nat) (digits : List Char) (c : Char) :
    numeral base (digits ++ [c]) = base * numeral base digits + digitValue c := by
  unfold numeral
  rw [List.foldl_append]
  rfl

/-- **The digits of a number stand for it.** -/
theorem numeral_toDigits {base : Nat} (hb : 1 < base) (hle : base ≤ 16) (n : Nat) :
    numeral base (Nat.toDigits base n) = n := by
  induction n using Nat.strongRecOn with
  | _ n ih =>
    rw [Nat.toDigits_eq_if hb]
    split
    · next h =>
      have hdigit := digitValue_digitChar (show n < 16 by omega)
      simp [numeral, hdigit]
    · next h =>
      have hlt : n / base < n := Nat.div_lt_self (by omega) hb
      have hmod : n % base < base := Nat.mod_lt n (by omega)
      rw [numeral_concat, ih _ hlt, digitValue_digitChar (by omega)]
      exact Nat.div_add_mod n base

theorem isDigit_of_mem_decimal {n : Nat} : ∀ c ∈ Nat.toDigits 10 n, c.isDigit = true :=
  fun _ hc => Nat.isDigit_of_mem_toDigits (by decide) (by decide) hc

/-- A decimal number is read up to the first character that is no digit. -/
theorem takeWhile_decimal (n : Nat) {rest : List Char} (h : rest.takeWhile Char.isDigit = []) :
    (Nat.toDigits 10 n ++ rest).takeWhile Char.isDigit = Nat.toDigits 10 n := by
  rw [List.takeWhile_append_of_pos isDigit_of_mem_decimal, h, List.append_nil]

/-- What counts for nothing may stand in front. -/
theorem numeral_leftpad {c : Char} (hc : digitValue c = 0) (base width : Nat) (digits : List Char) :
    numeral base (digits.leftpad width c) = numeral base digits := by
  have hpad : ∀ k, (List.replicate k c).foldl (fun n c => base * n + digitValue c) 0 = 0 := by
    intro k
    induction k with
    | zero => rfl
    | succ k ih =>
      rw [List.replicate_succ, List.foldl_cons, hc]
      exact ih
  unfold List.leftpad numeral
  rw [List.foldl_append, hpad]

end GuestExit.Text
