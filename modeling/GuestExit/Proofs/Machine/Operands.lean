import GuestExit.Proofs.Machine.Changes

/-!
# The guest's registers and its instruction pointer

Two things happen to the registers when an access is carried out: the operand is written, and the
instruction pointer is moved. Both are kept in two places, and which of them counts differs from
register to register. To the guest there is one register of each name, and it reads as what was last
written to it (`gpr_writeGpr`). Moving the instruction pointer shows in the two copies of it and
nowhere else (`read_advancement`, `saved_advancement`).
-/

namespace GuestExit

namespace Machine

/-- Where the guest goes on behind the instruction that exited. -/
def nextRip (m : Machine) : UInt64 :=
  m.vmcs.read .guestRip + instructionStep (m.vmcs.read .exitInstructionLength)

/-- How many bytes that is: the length of the instruction, if it is one that an instruction can
have. -/
def stride (m : Machine) : Nat :=
  let length := (m.vmcs.read .exitInstructionLength).toNat
  if 1 ≤ length ∧ length ≤ 15 then length else 1

theorem stride_bounds (m : Machine) : 1 ≤ m.stride ∧ m.stride ≤ 15 := by
  unfold stride
  dsimp only
  split <;> omega

/-- **The instruction pointer wraps around**, and nothing else is lost. -/
theorem toNat_nextRip (m : Machine) :
    m.nextRip.toNat = ((m.vmcs.read .guestRip).toNat + m.stride) % UInt64.size := by
  have hstep : (instructionStep (m.vmcs.read .exitInstructionLength)).toNat = m.stride := by
    unfold instructionStep stride
    dsimp only
    simp only [UInt64.le_iff_toNat_le, UInt64.reduceToNat]
    split <;> rfl
  rw [nextRip, UInt64.toNat_add, hstep]

theorem advancement_eq (m : Machine) :
    m.advancement = [.save .rip m.nextRip, .write .guestRip m.nextRip] := rfl

theorem read_advancement (m x : Machine) (f : Field) :
    (x.perform m.advancement).vmcs.read f
      = if f = .guestRip then m.nextRip else x.vmcs.read f :=
  Vmcs.read_write ..

theorem saved_advancement (m x : Machine) (r : Register) :
    (x.perform m.advancement).saved.read r
      = if r = .rip then m.nextRip else x.saved.read r :=
  Registers.read_write ..

theorem gpr_advancement (m x : Machine) (g : Gpr) :
    (x.perform m.advancement).gpr g = x.gpr g := by
  have hfield : Field.guestRsp ≠ .guestRip := by decide
  have hregister : Register.gpr g ≠ .rip := by simp
  unfold gpr
  rw [read_advancement, saved_advancement, if_neg hfield, if_neg hregister]

end Machine

namespace ExitM

/-- Only writing the stack pointer shows in the control structure, -/
theorem read_writeGpr (g : Gpr) (v : UInt64) (m : Machine) (f : Field) :
    ((writeGpr g v).final m).vmcs.read f
      = if g = Gpr.rsp ∧ f = .guestRsp then v else m.vmcs.read f := by
  unfold final
  rw [effects_writeGpr]
  by_cases hg : g = Gpr.rsp
  · simp [hg, Vmcs.read_write]
  · simp [hg]

/-- while every register that is written shows among the saved ones. -/
theorem saved_writeGpr (g : Gpr) (v : UInt64) (m : Machine) (r : Register) :
    ((writeGpr g v).final m).saved.read r = if r = .gpr g then v else m.saved.read r := by
  unfold final
  rw [effects_writeGpr]
  by_cases hg : g = Gpr.rsp
  · simp [hg, Registers.read_write]
  · simp [hg, Registers.read_write]

/-- **A register reads as what was last written to it**, for the guest as well. -/
theorem gpr_writeGpr (g : Gpr) (v : UInt64) (m : Machine) (h : Gpr) :
    ((writeGpr g v).final m).gpr h = if h = g then v else m.gpr h := by
  unfold Machine.gpr
  rw [read_writeGpr, saved_writeGpr]
  by_cases hstack : h = Gpr.rsp
  · subst hstack
    simp [eq_comm]
  · simp [hstack]

end ExitM

end GuestExit
