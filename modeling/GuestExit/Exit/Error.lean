import GuestExit.Exit.Access
import GuestExit.Text.Numeral

/-!
# Why an exit cannot be resolved

Every way in which handling an exit fails, with what the message about it shows.
Resuming the guest after any of them would leave it in a state it did not ask
for, so all of them end the hypervisor.
-/

namespace GuestExit

/-- A reason why an exit cannot be resolved. -/
inductive ExitError where
  /-- The exit-reason field holds no known reason. -/
  | unknownReason (word : UInt32)
  /-- No virtualizer is registered for the exit reason. -/
  | unroutedExit
  /-- The exit qualification names no control register. -/
  | invalidQualification (word : UInt64)
  /-- There is no chain of handlers for this kind of access. -/
  | unsupportedAccess (access : Access)
  /-- Every handler of the chain declined the access. -/
  | unclaimedAccess (access : Access)
  /-- Every handler declined the interrupt. -/
  | unhandledVector (vector : UInt8)
  deriving DecidableEq, Repr

namespace ExitError

/-- What is told about an error. -/
def message : ExitError → String
  | unknownReason word => "Unknown VM exit reason: " ++ Text.hex word.toNat
  | unroutedExit => "No virtualizer is registered for this VM exit"
  | invalidQualification word =>
    "Invalid control register access exit qualification: " ++ Text.hex word.toNat
  | unsupportedAccess access => "Unsupported control register access: " ++ access.text
  | unclaimedAccess access => "No handler claimed control register access: " ++ access.text
  | unhandledVector vector => "Unhandled interrupt vector: " ++ toString vector.toNat

end ExitError

end GuestExit
