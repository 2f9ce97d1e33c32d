import GuestExit.Exit.Qualification
import GuestExit.Proofs.Machine.BitField

/-!
# Words and the accesses they describe

A word describes an access if each part of the access stands in its place (`Describes`), and that is
all that decoding looks for: it finds the access that the word describes, and fails only if there is
none, because no control register has the number in the lowest four bits (`decode_eq_ok_iff`,
`decode_eq_error_iff`).

Between and above the fields are bits that belong to none of them (`Reserved`). They are clear in
the word that is written for an access, and all other bits are those of any word that describes it
(`Describes.testBit_word`). So an access stands for all words that differ in the reserved bits only,
and for no others.
-/

namespace GuestExit

theorem ControlReg.code_lt (c : ControlReg) : c.code < 16 := by
  cases c <;> decide

/-- The numbers that name a control register. -/
theorem ControlReg.exists_code_eq_iff {n : Nat} :
    (∃ c : ControlReg, c.code = n) ↔ n ∈ [0, 2, 3, 4, 8] := by
  constructor
  · rintro ⟨c, rfl⟩
    cases c <;> decide
  · intro h
    simp only [List.mem_cons, List.not_mem_nil, or_false] at h
    rcases h with rfl | rfl | rfl | rfl | rfl
    · exact ⟨.cr0, rfl⟩
    · exact ⟨.cr2, rfl⟩
    · exact ⟨.cr3, rfl⟩
    · exact ⟨.cr4, rfl⟩
    · exact ⟨.cr8, rfl⟩

theorem AccessKind.code_lt (k : AccessKind) : k.code < 4 := by
  cases k <;> decide

namespace Qualification

variable {w w' : UInt64} {q : Qualification}

/-- Each part of an access stands in its place in a word. -/
structure Describes (w : UInt64) (q : Qualification) : Prop where
  register : bitField w.toNat 0 4 = q.access.register.code
  kind : bitField w.toNat 4 2 = q.access.kind.code
  memory : bitField w.toNat 6 1 = q.lmswMemory.toNat
  gpr : bitField w.toNat 8 4 = q.gpr.val
  source : bitField w.toNat 16 16 = q.lmswSource.toNat

/-- The bits that belong to no field, by their places. -/
def Reserved (i : Nat) : Prop :=
  i = 7 ∨ 12 ≤ i ∧ i ≤ 15 ∨ 32 ≤ i

instance (i : Nat) : Decidable (Reserved i) :=
  inferInstanceAs (Decidable (_ ∨ _))

/-- Two words have the same bits but for the reserved ones. -/
def Agree (w w' : UInt64) : Prop :=
  ∀ i, ¬ Reserved i → w.toNat.testBit i = w'.toNat.testBit i

/-! ## Reading a word -/

/-- **Decoding a word finds the access that it describes.** -/
theorem decode_eq_ok_iff : decode w = .ok q ↔ Describes w q := by
  unfold decode
  dsimp only
  cases hc : ControlReg.ofCode? (bitField w.toNat 0 4) with
  | none =>
    refine iff_of_false (by simp) fun h => ?_
    rw [ControlReg.ofCode?_eq_some_iff.mpr h.register.symm] at hc
    exact absurd hc (by simp)
  | some c =>
    have hregister : c.code = bitField w.toNat 0 4 := ControlReg.ofCode?_eq_some_iff.mp hc
    constructor
    · rintro ⟨⟩
      exact
        { register := hregister.symm
          kind := (AccessKind.code_ofCode (bitField_lt _ 4 2)).symm
          memory := bitField_one_eq_toNat _ 6
          gpr := rfl
          source := (UInt16.toNat_ofNat_of_lt' (bitField_lt _ 16 16)).symm }
    · intro h
      have hname : c = q.access.register := by
        rw [h.register, ControlReg.ofCode?_eq_some_iff.mpr rfl] at hc
        exact (Option.some.inj hc).symm
      have hmemory : decide (q.lmswMemory.toNat = 1) = q.lmswMemory := by
        cases q.lmswMemory <;> rfl
      have hgpr : (⟨bitField w.toNat 8 4, bitField_lt _ 8 4⟩ : Gpr) = q.gpr := Fin.ext h.gpr
      rw [hname, h.kind, h.memory, h.source, hgpr, AccessKind.ofCode_code, UInt16.ofNat_toNat,
        hmemory]

theorem register_bits (w : UInt64) : bitField w.toNat 0 4 = w.toNat % 16 := rfl

/-- **Decoding fails only if no control register is named**, with an error about the whole word. -/
theorem decode_eq_error_iff {e : ExitError} :
    decode w = .error e ↔ w.toNat % 16 ∉ [0, 2, 3, 4, 8] ∧ e = .invalidQualification w := by
  rw [← ControlReg.exists_code_eq_iff, ← register_bits]
  unfold decode
  dsimp only
  cases hc : ControlReg.ofCode? (bitField w.toNat 0 4) with
  | none =>
    have hnone : ¬ ∃ c : ControlReg, c.code = bitField w.toNat 0 4 := by
      rintro ⟨c, h⟩
      rw [ControlReg.ofCode?_eq_some_iff.mpr h] at hc
      exact absurd hc (by simp)
    constructor
    · rintro ⟨⟩
      exact ⟨hnone, rfl⟩
    · rintro ⟨-, rfl⟩
      rfl
  | some c =>
    have hsome : ∃ c : ControlReg, c.code = bitField w.toNat 0 4 :=
      ⟨c, ControlReg.ofCode?_eq_some_iff.mp hc⟩
    exact iff_of_false (by simp) fun h => h.1 hsome

theorem exists_decode_eq_ok_iff :
    (∃ q, decode w = .ok q) ↔ w.toNat % 16 ∈ [0, 2, 3, 4, 8] := by
  cases h : decode w with
  | error e =>
    obtain ⟨hno, -⟩ := decode_eq_error_iff.mp h
    exact iff_of_false (by simp) hno
  | ok q =>
    refine iff_of_true ⟨q, rfl⟩ ?_
    rw [← ControlReg.exists_code_eq_iff, ← register_bits]
    exact ⟨q.access.register, (decode_eq_ok_iff.mp h).register.symm⟩

/-! ## Writing a word -/

/-- No part of an access reaches into the next one. -/
theorem toNat_word (q : Qualification) :
    q.word.toNat = q.access.register.code + q.access.kind.code <<< 4 + q.lmswMemory.toNat <<< 6
      + q.gpr.val <<< 8 + q.lmswSource.toNat <<< 16 := by
  have hregister := q.access.register.code_lt
  have hkind := q.access.kind.code_lt
  have hmemory := q.lmswMemory.toNat_lt
  have hgpr := q.gpr.isLt
  have hsource := q.lmswSource.toNat_lt
  simp only [word, Nat.shiftLeft_eq, UInt64.toNat_ofNat']
  omega

/-- The bits of a word are those of the parts, each from its place upwards. -/
theorem testBit_word (q : Qualification) (i : Nat) :
    q.word.toNat.testBit i =
      if i < 16 then
        if i < 8 then
          if i < 6 then
            if i < 4 then q.access.register.code.testBit i
            else q.access.kind.code.testBit (i - 4)
          else q.lmswMemory.toNat.testBit (i - 6)
        else q.gpr.val.testBit (i - 8)
      else q.lmswSource.toNat.testBit (i - 16) := by
  have hregister : q.access.register.code < 1 <<< 4 := q.access.register.code_lt
  have hkind : q.access.kind.code < 1 <<< 2 := q.access.kind.code_lt
  have hmemory : q.lmswMemory.toNat < 1 <<< 2 :=
    Nat.lt_of_lt_of_le q.lmswMemory.toNat_lt (by decide)
  have hgpr : q.gpr.val < 1 <<< 8 := Nat.lt_of_lt_of_le q.gpr.isLt (by decide)
  -- what is below a part stays below the place where that part begins
  have hbelow6 := add_shiftLeft_lt hregister hkind
  have hbelow8 := add_shiftLeft_lt hbelow6 hmemory
  have hbelow16 := add_shiftLeft_lt hbelow8 hgpr
  rw [toNat_word, testBit_add_shiftLeft hbelow16, testBit_add_shiftLeft hbelow8,
    testBit_add_shiftLeft hbelow6, testBit_add_shiftLeft hregister]

/-- **The word written for an access has the bits of any word that describes it, the reserved ones
apart**, which are clear. -/
theorem Describes.testBit_word (h : Describes w q) (i : Nat) :
    q.word.toNat.testBit i = (w.toNat.testBit i && !decide (Reserved i)) := by
  -- a field's bits are those of the word, and a place that is not in its field is reserved
  have hfield : ∀ low width, low ≤ i → (i < low + width ↔ ¬ Reserved i) →
      (bitField w.toNat low width).testBit (i - low)
        = (w.toNat.testBit i && !decide (Reserved i)) := by
    intro low width hlow hin
    have hwidth : i - low < width ↔ ¬ Reserved i := Iff.trans (by omega) hin
    rw [testBit_bitField, Nat.add_sub_cancel' hlow, Bool.and_comm, decide_eq_decide.mpr hwidth,
      decide_not]
  rw [Qualification.testBit_word, ← h.register, ← h.kind, ← h.memory, ← h.gpr, ← h.source]
  split
  · split
    · split
      · split
        · exact hfield 0 4 (by omega) (by unfold Reserved; omega)
        · exact hfield 4 2 (by omega) (by unfold Reserved; omega)
      · exact hfield 6 1 (by omega) (by unfold Reserved; omega)
    · exact hfield 8 4 (by omega) (by unfold Reserved; omega)
  · exact hfield 16 16 (by omega) (by unfold Reserved; omega)

/-- The word written for an access describes it. -/
theorem describes_word (q : Qualification) : Describes q.word q := by
  have hregister := q.access.register.code_lt
  have hkind := q.access.kind.code_lt
  have hmemory := q.lmswMemory.toNat_lt
  have hgpr := q.gpr.isLt
  have hsource := q.lmswSource.toNat_lt
  have hw := q.toNat_word
  simp only [Nat.shiftLeft_eq] at hw
  have hbits : ∀ low width,
      bitField q.word.toNat low width = q.word.toNat / 2 ^ low % 2 ^ width := by
    intro low width
    rw [bitField, Nat.shiftRight_eq_div_pow, Nat.one_shiftLeft]
  exact
    { register := by rw [hbits]; omega
      kind := by rw [hbits]; omega
      memory := by rw [hbits]; omega
      gpr := by rw [hbits]; omega
      source := by rw [hbits]; omega }

/-- **A word describes the same access as another exactly if they agree**, reserved bits apart. -/
theorem Describes.iff_agree (h : Describes w q) : Describes w' q ↔ Agree w w' := by
  constructor
  · intro h' i hi
    have hbit : (w.toNat.testBit i && !decide (Reserved i))
        = (w'.toNat.testBit i && !decide (Reserved i)) := by
      rw [← h.testBit_word, ← h'.testBit_word]
    simpa [hi] using hbit
  · intro agree
    have hfield : ∀ low width, (∀ i, low ≤ i → i < low + width → ¬ Reserved i) →
        bitField w'.toNat low width = bitField w.toNat low width := fun low width hin =>
      bitField_eq_iff.mpr fun i hlow hhigh => (agree i (hin i hlow hhigh)).symm
    exact
      { register := (hfield 0 4 (by unfold Reserved; omega)).trans h.register
        kind := (hfield 4 2 (by unfold Reserved; omega)).trans h.kind
        memory := (hfield 6 1 (by unfold Reserved; omega)).trans h.memory
        gpr := (hfield 8 4 (by unfold Reserved; omega)).trans h.gpr
        source := (hfield 16 16 (by unfold Reserved; omega)).trans h.source }

/--
**Decoding an exit qualification is exact.** It succeeds exactly if the lowest four bits are the
number of a control register, and fails with an error about the whole word otherwise. The access it
finds is the one whose parts stand in the word, each in its place; written out again, they make the
word with the reserved bits cleared and all others as they were. Another word is decoded to the same
access exactly if it differs in reserved bits only. And every access is what its own word is decoded
to; no part of it can be too large for its place.
-/
theorem decoding_is_exact (w : UInt64) :
    ((∃ q, decode w = .ok q) ↔ w.toNat % 16 ∈ [0, 2, 3, 4, 8])
      ∧ (∀ e, decode w = .error e
        ↔ w.toNat % 16 ∉ [0, 2, 3, 4, 8] ∧ e = .invalidQualification w)
      ∧ (∀ q, decode w = .ok q ↔ Describes w q)
      ∧ (∀ q, decode w = .ok q →
        (∀ i, q.word.toNat.testBit i = (w.toNat.testBit i && !decide (Reserved i)))
          ∧ ∀ w', decode w' = .ok q ↔ Agree w w')
      ∧ ∀ q : Qualification, Describes q.word q ∧ decode q.word = .ok q := by
  refine ⟨exists_decode_eq_ok_iff, fun _ => decode_eq_error_iff, fun _ => decode_eq_ok_iff,
    fun q h => ?_, fun q => ⟨q.describes_word, decode_eq_ok_iff.mpr q.describes_word⟩⟩
  have hdescribes := decode_eq_ok_iff.mp h
  exact ⟨hdescribes.testBit_word, fun w' => decode_eq_ok_iff.trans hdescribes.iff_agree⟩

/-- All reserved bits are set, around an LMSW with a memory operand: none of them shows. -/
theorem decoding_is_exact_of_reserved_bits :
    decode 0xffffffff000bf5f0 = .ok ⟨⟨.lmsw, .cr0⟩, 5, true, 0xb⟩
      ∧ word ⟨⟨.lmsw, .cr0⟩, 5, true, 0xb⟩ = 0xb0570
      ∧ decode 0xb0570 = .ok ⟨⟨.lmsw, .cr0⟩, 5, true, 0xb⟩
      ∧ Agree 0xffffffff000bf5f0 0xb0570 := by
  have hw : decode 0xffffffff000bf5f0 = .ok ⟨⟨.lmsw, .cr0⟩, 5, true, 0xb⟩ := rfl
  have hword : word ⟨⟨.lmsw, .cr0⟩, 5, true, 0xb⟩ = 0xb0570 := by decide
  obtain ⟨-, -, -, hok, hown⟩ := decoding_is_exact 0xffffffff000bf5f0
  have hclean : decode 0xb0570 = .ok ⟨⟨.lmsw, .cr0⟩, 5, true, 0xb⟩ := hword ▸ (hown _).2
  exact ⟨hw, hword, hclean, ((hok _ hw).2 _).mp hclean⟩

end Qualification

end GuestExit
