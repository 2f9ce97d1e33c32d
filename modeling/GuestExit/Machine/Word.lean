/-!
# Bit fields of a word

The exit information arrives packed into machine words, and a word that describes an
event for the guest is packed field by field. A field is named by its lowest bit and
its width, and read as a natural number.
-/

namespace GuestExit

/-- The `width` bits of `word` from bit `low` upwards. -/
def bitField (word low width : Nat) : Nat :=
  (word >>> low) % (1 <<< width)

theorem bitField_lt (word low width : Nat) : bitField word low width < 1 <<< width := by
  unfold bitField
  exact Nat.mod_lt _ (by rw [Nat.one_shiftLeft]; exact Nat.two_pow_pos width)

example : bitField 0x913 8 4 = 9 ∧ bitField 0x913 4 2 = 1 := by decide

/-- The word with other bits in a field: as many of those of `value` as fit. -/
def setBitField (word low width value : UInt32) : UInt32 :=
  let mask := ((1 <<< width) - 1) <<< low
  word &&& ~~~mask ||| value <<< low &&& mask

example : setBitField 0x913 4 4 0x2A = 0x9A3 := by decide

end GuestExit
