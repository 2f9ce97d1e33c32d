import GuestExit.Exit.Error
import GuestExit.Machine.Register
import GuestExit.Machine.Word

/-!
# The exit qualification of a control register access

The word that describes a control register access, and its fields:

| bits   | field                                                 |
|--------|-------------------------------------------------------|
| 0–3    | number of the control register                        |
| 4–5    | kind of access                                        |
| 6      | whether LMSW has a memory operand                     |
| 8–11   | general-purpose register operand of a move            |
| 16–31  | source data of LMSW                                   |

All other bits are reserved and play no part. `decode` reads a word and fails only
on the number of the control register; `word` writes one.
-/

namespace GuestExit

/-- A control register access as the processor describes it. -/
structure Qualification where
  access : Access
  /-- The general-purpose register operand of a move. -/
  gpr : Gpr
  /-- Whether LMSW has a memory operand. -/
  lmswMemory : Bool
  /-- The source data of LMSW. -/
  lmswSource : UInt16
  deriving DecidableEq, Repr

namespace Qualification

/-- The access a word describes. The error carries the whole word. -/
def decode (word : UInt64) : Except ExitError Qualification :=
  let bits := bitField word.toNat
  match ControlReg.ofCode? (bits 0 4) with
  | none => .error (.invalidQualification word)
  | some register =>
    .ok {
      access := ⟨.ofCode (bits 4 2), register⟩
      gpr := ⟨bits 8 4, bitField_lt word.toNat 8 4⟩
      lmswMemory := bits 6 1 = 1
      lmswSource := .ofNat (bits 16 16) }

/-- The word that describes an access, with all reserved bits clear. -/
def word (q : Qualification) : UInt64 :=
  .ofNat <|
    q.access.register.code + q.access.kind.code <<< 4 + q.lmswMemory.toNat <<< 6
      + q.gpr.val <<< 8 + q.lmswSource.toNat <<< 16

example : decode 0x913 = .ok ⟨⟨.movFromCr, .cr3⟩, 9, false, 0⟩ := rfl

example : decode 0xB0030 = .ok ⟨⟨.lmsw, .cr0⟩, 0, false, 0xB⟩ := rfl

example : decode 0x5 = .error (.invalidQualification 0x5) := rfl

end Qualification

end GuestExit
