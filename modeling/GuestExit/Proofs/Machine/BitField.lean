import GuestExit.Machine.Word

/-!
# The bits of a bit field

A bit field is a run of bits of a word, moved down to the bottom of a number (`testBit_bitField`),
so two words have the same field exactly if they agree on that run. The other way round, numbers are
packed into a word by adding them up, each shifted to its place. As long as what stands below the
place fits below it, nothing is carried over, and each bit of the sum is a bit of one of them
(`testBit_add_shiftLeft`).
-/

namespace GuestExit

theorem testBit_bitField (word low width i : Nat) :
    (bitField word low width).testBit i = (decide (i < width) && word.testBit (low + i)) := by
  rw [bitField, Nat.one_shiftLeft, Nat.testBit_mod_two_pow, Nat.testBit_shiftRight]

/-- **Two words have the same field exactly if they agree on its bits.** -/
theorem bitField_eq_iff {word word' low width : Nat} :
    bitField word low width = bitField word' low width
      ↔ ∀ i, low ≤ i → i < low + width → word.testBit i = word'.testBit i := by
  constructor
  · intro h i hlow hhigh
    have hbit := congrArg (fun n => n.testBit (i - low)) h
    have hwidth : i - low < width := by omega
    have hplace : low + (i - low) = i := by omega
    simpa only [testBit_bitField, hwidth, hplace, decide_true, Bool.true_and] using hbit
  · intro h
    apply Nat.eq_of_testBit_eq
    intro i
    rw [testBit_bitField, testBit_bitField]
    by_cases hi : i < width
    · rw [h (low + i) (by omega) (by omega)]
    · simp [hi]

/-- A field of one bit is that bit. -/
theorem bitField_one (word low : Nat) : bitField word low 1 = (word.testBit low).toNat := by
  rw [bitField, Nat.one_shiftLeft, Nat.testBit_eq_decide_div_mod_eq, Nat.shiftRight_eq_div_pow]
  rcases Nat.mod_two_eq_zero_or_one (word / 2 ^ low) with h | h
  · simp [h]
  · simp [h]

/-- Such a field can be read as a flag. -/
theorem bitField_one_eq_toNat (word low : Nat) :
    bitField word low 1 = (decide (bitField word low 1 = 1)).toNat := by
  rw [bitField_one]
  cases word.testBit low <;> rfl

variable {a b low width : Nat}

/-- **A sum of two fields that do not overlap has the bits of both.** -/
theorem testBit_add_shiftLeft (h : a < 1 <<< low) (b i : Nat) :
    (a + b <<< low).testBit i = if i < low then a.testBit i else b.testBit (i - low) := by
  rw [Nat.one_shiftLeft] at h
  rw [Nat.shiftLeft_eq, Nat.add_comm, Nat.mul_comm, Nat.testBit_two_pow_mul_add b h]

/-- The sum of two fields is one field, as wide as both together. -/
theorem add_shiftLeft_lt (ha : a < 1 <<< low) (hb : b < 1 <<< width) :
    a + b <<< low < 1 <<< (low + width) := by
  rw [Nat.one_shiftLeft] at ha hb ⊢
  rw [Nat.shiftLeft_eq, Nat.pow_add]
  calc a + b * 2 ^ low < 2 ^ low + b * 2 ^ low := Nat.add_lt_add_right ha _
    _ = (b + 1) * 2 ^ low := by rw [Nat.succ_mul, Nat.add_comm]
    _ ≤ 2 ^ width * 2 ^ low := Nat.mul_le_mul_right _ hb
    _ = 2 ^ low * 2 ^ width := Nat.mul_comm ..

end GuestExit
