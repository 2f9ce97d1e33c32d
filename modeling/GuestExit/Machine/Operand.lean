import GuestExit.Machine.ExitM

/-!
# Operands and the instruction pointer

The guest's registers as the instruction that exited sees them. RSP is read from
the control structure, since its saved copy is stale, and written to both places.
Every other general-purpose register lives among the saved ones.

`advanceRip` resumes the guest behind the instruction. The instruction pointer too
is kept in both places, and the one in the control structure is authoritative.
-/

namespace GuestExit

namespace Machine

/-- The guest's value of a general-purpose register. -/
def gpr (m : Machine) (g : Gpr) : UInt64 :=
  if g = Gpr.rsp then m.vmcs.read .guestRsp else m.saved.read (.gpr g)

end Machine

/-- How far the instruction pointer moves over an instruction of the given length. Lengths from 1
to 15 bytes are possible; any other counts as 1. -/
def instructionStep (length : UInt64) : UInt64 :=
  if 1 ≤ length ∧ length ≤ 15 then length else 1

namespace ExitM

/-- The guest's value of a general-purpose register. -/
def readGpr (g : Gpr) : ExitM UInt64 := fun m => ⟨m.gpr g, []⟩

/-- Changes the guest's value of a general-purpose register. -/
def writeGpr (g : Gpr) (value : UInt64) : ExitM Unit := do
  save (.gpr g) value
  if g = Gpr.rsp then write .guestRsp value

/-- Moves the guest's instruction pointer behind the instruction that exited, modulo 2^64. A length
no instruction has is told as an error first. -/
def advanceRip : ExitM Unit := do
  let length ← read .exitInstructionLength
  let old ← read .guestRip
  unless 1 ≤ length ∧ length ≤ 15 do
    report (.lengthInvalid length old)
  let new := old + instructionStep length
  save .rip new
  write .guestRip new
  report (.ripAdvanced old new)

@[simp] theorem value_readGpr (g : Gpr) (m : Machine) : (readGpr g m).value = m.gpr g := rfl

@[simp] theorem effects_readGpr (g : Gpr) (m : Machine) : (readGpr g m).effects = [] := rfl

@[simp] theorem final_readGpr (g : Gpr) (m : Machine) : (readGpr g).final m = m := rfl

/-- Writing a register has at most two effects, and two only for RSP. -/
theorem effects_writeGpr (g : Gpr) (v : UInt64) (m : Machine) :
    (writeGpr g v m).effects
      = .save (.gpr g) v :: if g = Gpr.rsp then [.write .guestRsp v] else [] := by
  unfold writeGpr
  split <;> simp

end ExitM

end GuestExit
