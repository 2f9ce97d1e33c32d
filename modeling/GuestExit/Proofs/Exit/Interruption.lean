import GuestExit.Machine.Injection
import GuestExit.Proofs.Machine.BitField

/-!
# Events and their words

A word describes an event if each part of the event stands in its place and the valid bit is set
(`Describes`), and decoding finds the event that a word describes (`ofWord?_eq_some_iff`). Whether
there is one is up to four bits: the valid bit, and the three that hold the number of the kind, of
which one is reserved.

An event is written into a word field by field, and the fields do not overlap: the
word is the sum of the vector, the number of the kind shifted by eight, the two flags
and the valid bit (`toNat_word`). So an event is read back from its word as it was
(`ofWord?_word`). For the event of an external interrupt the sum comes down to the
valid bit and the vector.

The other way round, a word is that of the event which it describes if the reserved bits between
the parts and the valid bit are clear (`Describes.word_eq_of_clear`). Decoding does not look at
them, so any other word is that word once they are cleared (`Describes.word_eq`).
-/

namespace GuestExit

/-- A kind of event has any number of three bits but 1. -/
theorem InterruptionKind.exists_code_eq_iff {n : Nat} :
    (∃ k : InterruptionKind, k.code = n) ↔ n < 8 ∧ n ≠ 1 := by
  constructor
  · rintro ⟨k, rfl⟩
    cases k <;> decide
  · rintro ⟨hlt, hne⟩
    have hall : ∀ n < 8, n ≠ 1 → (ofCode? n).isSome := by decide
    obtain ⟨k, hk⟩ := Option.isSome_iff_exists.mp (hall n hlt hne)
    exact ⟨k, ofCode?_eq_some_iff.mp hk⟩

namespace Interruption

variable {w w' : UInt32} {e : Interruption}

/-- Each part of an event stands in its place in a word, and the word is valid. -/
structure Describes (w : UInt32) (e : Interruption) : Prop where
  vector : bitField w.toNat 0 8 = e.vector.toNat
  kind : bitField w.toNat 8 3 = e.kind.code
  errorCode : bitField w.toNat 11 1 = e.hasErrorCode.toNat
  nmi : bitField w.toNat 12 1 = e.nmiUnblocking.toNat
  valid : bitField w.toNat 31 1 = 1

/-! ## Reading a word -/

/-- **Decoding a word finds the event that it describes.** -/
theorem ofWord?_eq_some_iff : ofWord? w = some e ↔ Describes w e := by
  unfold ofWord?
  dsimp only
  constructor
  · intro h
    split at h
    case isTrue hvalid =>
      obtain ⟨k, hk, rfl⟩ := Option.map_eq_some_iff.mp h
      exact
        { vector := (UInt8.toNat_ofNat_of_lt' (bitField_lt _ 0 8)).symm
          kind := (InterruptionKind.ofCode?_eq_some_iff.mp hk).symm
          errorCode := bitField_one_eq_toNat _ 11
          nmi := bitField_one_eq_toNat _ 12
          valid := hvalid }
    case isFalse => simp at h
  · intro h
    rw [if_pos h.valid, h.kind, h.vector, h.errorCode, h.nmi,
      InterruptionKind.ofCode?_eq_some_iff.mpr rfl]
    simp

/-- **A word describes an event exactly if it is valid and names a kind.** -/
theorem exists_ofWord?_iff :
    (∃ e, ofWord? w = some e)
      ↔ w.toNat.testBit 31 = true ∧ ∃ k : InterruptionKind, k.code = bitField w.toNat 8 3 := by
  constructor
  · rintro ⟨e, h⟩
    have hdescribes := ofWord?_eq_some_iff.mp h
    have hvalid := hdescribes.valid
    rw [bitField_one, Bool.toNat_eq_one] at hvalid
    exact ⟨hvalid, e.kind, hdescribes.kind.symm⟩
  · rintro ⟨hvalid, k, hk⟩
    have hone : bitField w.toNat 31 1 = 1 := by rw [bitField_one, hvalid]; rfl
    unfold ofWord?
    dsimp only
    rw [if_pos hone, InterruptionKind.ofCode?_eq_some_iff.mpr hk]
    exact ⟨_, rfl⟩

/-- It describes none if it is not valid, or if the number in place of the kind is the reserved
one. -/
theorem ofWord?_eq_none_iff :
    ofWord? w = none ↔ w.toNat.testBit 31 = false ∨ bitField w.toNat 8 3 = 1 := by
  have hlt : bitField w.toNat 8 3 < 8 := bitField_lt w.toNat 8 3
  rw [Option.eq_none_iff_forall_ne_some, ← not_exists, exists_ofWord?_iff,
    InterruptionKind.exists_code_eq_iff, Decidable.not_and_iff_not_or_not, Bool.not_eq_true]
  exact or_congr_right (by omega)

/-! ## Writing a word -/

/-- The word of an event as the sum of its fields. -/
theorem toNat_word (e : Interruption) :
    e.word.toNat = e.vector.toNat + e.kind.code * 256 + e.hasErrorCode.toNat * 2048
      + e.nmiUnblocking.toNat * 4096 + 2147483648 := by
  have hvector := e.vector.toNat_lt
  have hkind := e.kind.code_lt
  have herror := e.hasErrorCode.toNat_lt
  have hnmi := e.nmiUnblocking.toNat_lt
  simp only [word, Nat.shiftLeft_eq, UInt32.toNat_ofNat']
  omega

/-- A bit of the word says whether there is an error code. -/
theorem errorCode_word (e : Interruption) : bitField e.word.toNat 11 1 = e.hasErrorCode.toNat := by
  have hv := e.vector.toNat_lt
  have hk := e.kind.code_lt
  have he := e.hasErrorCode.toNat_lt
  have hn := e.nmiUnblocking.toNat_lt
  rw [toNat_word, bitField, Nat.shiftRight_eq_div_pow, Nat.one_shiftLeft]
  omega

/-- Between that bit and the valid bit nothing is set but the flag for NMIs: all else is
reserved. -/
theorem reserved_word (e : Interruption) :
    bitField e.word.toNat 12 19 = e.nmiUnblocking.toNat := by
  have hv := e.vector.toNat_lt
  have hk := e.kind.code_lt
  have he := e.hasErrorCode.toNat_lt
  have hn := e.nmiUnblocking.toNat_lt
  rw [toNat_word, bitField, Nat.shiftRight_eq_div_pow, Nat.one_shiftLeft]
  omega

/-- The word written for an event describes it. -/
theorem describes_word (e : Interruption) : Describes e.word e := by
  have hv := e.vector.toNat_lt
  have hk := e.kind.code_lt
  have he := e.hasErrorCode.toNat_lt
  have hn := e.nmiUnblocking.toNat_lt
  have hw := e.toNat_word
  have hbits : ∀ low width,
      bitField e.word.toNat low width = e.word.toNat / 2 ^ low % 2 ^ width := by
    intro low width
    rw [bitField, Nat.shiftRight_eq_div_pow, Nat.one_shiftLeft]
  exact
    { vector := by rw [hbits]; omega
      kind := by rw [hbits]; omega
      errorCode := e.errorCode_word
      nmi := by rw [hbits]; omega
      valid := by rw [hbits]; omega }

/-- **An event is read back from the word that describes it.** -/
theorem ofWord?_word (e : Interruption) : ofWord? e.word = some e :=
  ofWord?_eq_some_iff.mpr e.describes_word

/-- The word of an external interrupt is its vector with the valid bit set. -/
theorem word_external (v : UInt8) :
    (external v).word.toUInt64 = 0x80000000 ||| v.toUInt64 := by
  have hv := v.toNat_lt
  apply UInt64.toNat_inj.mp
  have hor : (0x80000000 : Nat) ||| v.toNat = 0x80000000 + v.toNat :=
    (Nat.two_pow_add_eq_or_of_lt (i := 31) (by omega) 1).symm
  rw [UInt32.toNat_toUInt64, toNat_word, UInt64.toNat_or, UInt8.toNat_toUInt64]
  show _ = (0x80000000 : Nat) ||| v.toNat
  rw [hor]
  simp only [external, InterruptionKind.code, Bool.toNat_false]
  omega

/-! ## Reserved bits -/

/-- The bits that belong to no part, from 13 to 30. -/
def reserved : UInt32 := 0x7fffe000

/-- Clearing the reserved bits clears nothing else. -/
theorem testBit_and_not_reserved (w : UInt32) (i : Nat) :
    (w &&& ~~~reserved).toNat.testBit i = (w.toNat.testBit i && !decide (13 ≤ i ∧ i ≤ 30)) := by
  rw [UInt32.toNat_and, Nat.testBit_and]
  -- beyond the word there is nothing to clear
  by_cases hi : i < 32
  · have hmask : ∀ i < 32, (~~~reserved).toNat.testBit i = !decide (13 ≤ i ∧ i ≤ 30) := by decide
    rw [hmask i hi]
  · have hclear : w.toNat.testBit i = false :=
      Nat.testBit_lt_two_pow
        (Nat.lt_of_lt_of_le w.toNat_lt (Nat.pow_le_pow_right (by decide) (by omega)))
    rw [hclear, Bool.false_and, Bool.false_and]

/-- A field that leaves out the reserved bits is the same whether they are cleared or not. -/
theorem bitField_and_not_reserved (w : UInt32) (low width : Nat)
    (h : low + width ≤ 13 ∨ 31 ≤ low) :
    bitField (w &&& ~~~reserved).toNat low width = bitField w.toNat low width := by
  refine bitField_eq_iff.mpr fun i hlow hhigh => ?_
  have hplace : ¬ (13 ≤ i ∧ i ≤ 30) := by omega
  rw [testBit_and_not_reserved, decide_eq_false hplace, Bool.not_false, Bool.and_true]

/-- Of the reserved bits nothing is left. -/
theorem bitField_reserved_and_not_reserved (w : UInt32) :
    bitField (w &&& ~~~reserved).toNat 13 18 = 0 := by
  apply Nat.eq_of_testBit_eq
  intro i
  rw [testBit_bitField, testBit_and_not_reserved, Nat.zero_testBit]
  by_cases hi : i < 18
  · have hplace : 13 ≤ 13 + i ∧ 13 + i ≤ 30 := by omega
    rw [decide_eq_true hplace, Bool.not_true, Bool.and_false, Bool.and_false]
  · rw [decide_eq_false hi, Bool.false_and]

/-- What a word describes is up to the fields that leave out the reserved bits. -/
theorem Describes.congr (h : Describes w e)
    (same : ∀ low width, low + width ≤ 13 ∨ 31 ≤ low →
      bitField w'.toNat low width = bitField w.toNat low width) : Describes w' e where
  vector := (same 0 8 (by omega)).trans h.vector
  kind := (same 8 3 (by omega)).trans h.kind
  errorCode := (same 11 1 (by omega)).trans h.errorCode
  nmi := (same 12 1 (by omega)).trans h.nmi
  valid := (same 31 1 (by omega)).trans h.valid

/-- **The reserved bits play no part** in what a word describes. -/
theorem describes_and_not_reserved : Describes (w &&& ~~~reserved) e ↔ Describes w e := by
  constructor
  · intro h
    exact h.congr fun low width hplace => (bitField_and_not_reserved w low width hplace).symm
  · intro h
    exact h.congr (bitField_and_not_reserved w)

/-- **A word without reserved bits is that of the event which it describes.** -/
theorem Describes.word_eq_of_clear (h : Describes w e) (hclear : bitField w.toNat 13 18 = 0) :
    e.word = w := by
  apply UInt32.toNat_inj.mp
  -- the parts, the reserved bits and the valid bit together are the whole word
  have hlt := w.toNat_lt
  obtain ⟨hvector, hkind, herror, hnmi, hvalid⟩ := h
  simp only [bitField, Nat.shiftRight_eq_div_pow, Nat.one_shiftLeft]
    at hvector hkind herror hnmi hvalid hclear
  rw [toNat_word]
  omega

/-- **Written out again, an event makes the word it was read from**, with the reserved bits
cleared. -/
theorem Describes.word_eq (h : Describes w e) : e.word = w &&& ~~~reserved :=
  (describes_and_not_reserved.mpr h).word_eq_of_clear (bitField_reserved_and_not_reserved w)

/-- **A word describes the same event as another exactly if they agree**, reserved bits apart. -/
theorem Describes.iff_agree (h : Describes w e) :
    Describes w' e ↔ w' &&& ~~~reserved = w &&& ~~~reserved := by
  constructor
  · intro h'
    rw [← h'.word_eq, h.word_eq]
  · intro agree
    rw [← describes_and_not_reserved, agree, describes_and_not_reserved]
    exact h

end Interruption

end GuestExit
