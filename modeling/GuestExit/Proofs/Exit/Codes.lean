import GuestExit.Proofs.Exit.Interruption
import GuestExit.Proofs.Vm.Registrations

/-!
# Codes and what they stand for

The number of a reason stands in two tables. One goes from reasons to numbers (`Reason.code`), the
other from numbers to reasons (`Reason.ofCode?`), and nothing keeps them together but care: with two
lines swapped, exits for one reason would go where those for another belong. They do agree, on all
numbers and not only on those that a reason has (`Reason.ofCode?_eq_some_iff`). The numbers go up to
64 with three gaps (`Reason.map_code_all`), in the order in which routes are listed.

Of a word only the lower half is decoded (`Reason.ofWord?_eq_ofCode?`), so the flags above it do not
matter. The other word that an exit comes with, the interruption information, is put together from
an event and taken apart again field by field.
-/

namespace GuestExit

namespace Reason

variable {w w' : UInt32} {n : Nat}

/-- A number is decoded to nothing exactly if no reason has it. -/
theorem ofCode?_eq_none_iff : ofCode? n = none ↔ ∀ r : Reason, r.code.toNat ≠ n := by
  rw [Option.eq_none_iff_forall_ne_some]
  exact forall_congr' fun r => not_congr ofCode?_eq_some_iff

/-- The numbers of all reasons, in order. -/
theorem map_code_all :
    all.map (fun r => r.code.toNat) = (List.range 65).filter fun n => n ∉ [35, 38, 42] := by
  decide

/-- **The numbers that stand for a reason** are those below 65 but for three. -/
theorem exists_code_eq_iff : (∃ r : Reason, r.code.toNat = n) ↔ n < 65 ∧ n ∉ [35, 38, 42] := by
  have hall : (∃ r : Reason, r.code.toNat = n) ↔ n ∈ all.map fun r => r.code.toNat := by
    rw [List.mem_map]
    exact exists_congr fun r => (and_iff_right r.mem_all).symm
  rw [hall, map_code_all, List.mem_filter, List.mem_range, decide_eq_true_iff]

/-- **Only the lower half of a word is decoded.** -/
theorem ofWord?_eq_ofCode? (w : UInt32) : ofWord? w = ofCode? (w.toNat % 65536) := by
  unfold ofWord?
  rw [UInt32.toNat_toUInt16]

/-- Words that differ in the upper half only are decoded alike. -/
theorem ofWord?_congr (h : w' &&& 0xffff = w &&& 0xffff) : ofWord? w' = ofWord? w := by
  have hlow : ∀ v : UInt32, (v &&& 0xffff).toNat = v.toNat % 65536 := by
    intro v
    rw [UInt32.toNat_and]
    exact Nat.and_two_pow_sub_one_eq_mod v.toNat 16
  rw [ofWord?_eq_ofCode?, ofWord?_eq_ofCode?, ← hlow, ← hlow, h]

end Reason

open Interruption (reserved)

/--
**Decoding inverts the codes.** A word is decoded to the reason whose number is in its lower half,
and to none exactly if no reason has that number, that is, for a number above 64 and for 35, 38 and
42; so the upper half never matters. Routes are listed by the numbers of their reasons, each reason
that is routed once.

Interruption information is decoded exactly if its valid bit is set and the number of a kind stands
in its place, which is any but 1. The event that is found is the one whose parts stand in the word;
written out again, they make the word with the reserved bits cleared and all others as they were.
Another word is decoded to the same event exactly if it differs in reserved bits only.
-/
theorem decoding_inverts_codes (w : UInt32) :
    (∀ r, Reason.ofWord? w = some r ↔ r.code.toNat = w.toNat % 65536)
      ∧ (Reason.ofWord? w = none ↔ ∀ r : Reason, r.code.toNat ≠ w.toNat % 65536)
      ∧ ((∃ r, Reason.ofWord? w = some r)
        ↔ w.toNat % 65536 < 65 ∧ w.toNat % 65536 ∉ [35, 38, 42])
      ∧ (∀ w' : UInt32, w' &&& 0xffff = w &&& 0xffff → Reason.ofWord? w' = Reason.ofWord? w)
      ∧ (∀ routes : Routes, (routes.toList.Pairwise fun p q => p.1.code < q.1.code)
        ∧ ∀ r route, (r, route) ∈ routes.toList ↔ routes.lookup r = some route)
      ∧ ((∃ e, Interruption.ofWord? w = some e)
        ↔ w.toNat.testBit 31 = true ∧ ∃ k : InterruptionKind, k.code = bitField w.toNat 8 3)
      ∧ (Interruption.ofWord? w = none
        ↔ w.toNat.testBit 31 = false ∨ bitField w.toNat 8 3 = 1)
      ∧ (∀ e, Interruption.ofWord? w = some e ↔ Interruption.Describes w e)
      ∧ ∀ e, Interruption.ofWord? w = some e → e.word = w &&& ~~~reserved
        ∧ ∀ w' : UInt32, Interruption.ofWord? w' = some e
          ↔ w' &&& ~~~reserved = w &&& ~~~reserved := by
  have hreason : ∀ r, Reason.ofWord? w = some r ↔ r.code.toNat = w.toNat % 65536 := by
    intro r
    rw [Reason.ofWord?_eq_ofCode?, Reason.ofCode?_eq_some_iff]
  refine ⟨hreason, ?_, ?_, fun _ => Reason.ofWord?_congr, fun routes => ?_,
    Interruption.exists_ofWord?_iff, Interruption.ofWord?_eq_none_iff,
    fun _ => Interruption.ofWord?_eq_some_iff, fun e h => ?_⟩
  · rw [Reason.ofWord?_eq_ofCode?, Reason.ofCode?_eq_none_iff]
  · rw [← Reason.exists_code_eq_iff]
    exact exists_congr hreason
  · exact ⟨routes.pairwise_toList, fun r route => Routes.mem_toList⟩
  · have hdescribes := Interruption.ofWord?_eq_some_iff.mp h
    exact ⟨hdescribes.word_eq, fun w' =>
      Interruption.ofWord?_eq_some_iff.trans hdescribes.iff_agree⟩

/-- An exit for an external interrupt under a flag, and a fault whose error code is announced among
reserved bits that are all set. -/
theorem decoding_inverts_codes_among_flags :
    let flagged : UInt32 := 0x80000001
    let fault : Interruption := ⟨13, .hardwareException, true, true⟩
    flagged &&& 0xffff = 1 &&& 0xffff
      ∧ Reason.ofWord? flagged = Reason.ofWord? 1
      ∧ Reason.ofWord? flagged = some .externalInterrupt
      ∧ Interruption.ofWord? 0xfffffb0d = some fault
      ∧ fault.word = 0x80001b0d
      ∧ Interruption.ofWord? 0x80001b0d = some fault := by
  intro flagged fault
  have hlow : flagged &&& 0xffff = 1 &&& 0xffff := by decide
  have hfault : Interruption.ofWord? 0xfffffb0d = some fault := by decide
  obtain ⟨hsome, -, -, halike, -⟩ := decoding_inverts_codes 1
  obtain ⟨-, -, -, -, -, -, -, -, hevent⟩ := decoding_inverts_codes 0xfffffb0d
  obtain ⟨hword, hsame⟩ := hevent fault hfault
  have hone := halike flagged hlow
  exact ⟨hlow, hone, hone.trans ((hsome .externalInterrupt).mpr rfl), hfault,
    hword.trans (by decide), (hsame 0x80001b0d).mpr (by decide)⟩

end GuestExit
