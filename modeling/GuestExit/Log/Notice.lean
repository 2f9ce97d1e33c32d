import GuestExit.Exit.Qualification
import GuestExit.Exit.Reason
import GuestExit.Exit.Route
import GuestExit.Log.Level
import GuestExit.Text.Line
import GuestExit.Text.Sink

/-!
# Notices

Everything the library tells its log, as data. A notice says what happened; its
level and its wording are decided here and nowhere else.

A virtualizer can also put its own records into the log: their text is cut into
lines, and each line is told as it stands.
-/

namespace GuestExit

open Text (hex)

/-- Something worth a log line. -/
inductive Notice where
  /-- Exits for `reason` now go to `route`. -/
  | routed (reason : Reason) (route : Route)
  /-- Exits for `reason` had gone to `previous` before. -/
  | rerouted (reason : Reason) (previous route : Route)
  /-- Writes to the CR0 bits in `mask` exit from now on. -/
  | cr0WritesExit (mask shadow : UInt64)
  /-- Writes to the CR4 bits in `mask` exit from now on. -/
  | cr4WritesExit (mask shadow : UInt64)
  /-- Reads of CR3 exit from now on. -/
  | cr3ReadsExit
  /-- Writes of CR3 exit from now on. -/
  | cr3WritesExit
  /-- External interrupts exit from now on. -/
  | interruptsExit
  /-- External interrupts no longer exit. -/
  | interruptsStay
  /-- An exit was taken for `reason`. -/
  | exited (reason : Reason)
  /-- A control register was accessed, with `gpr` as the operand of a move. -/
  | accessed (access : Access) (gpr : Gpr)
  /-- LMSW is not supported. -/
  | lmswUnsupported (source : UInt16) (memory : Bool)
  /-- There is no chain of handlers for this kind of access. -/
  | accessUnsupported (access : Access)
  /-- Every handler declined the access. -/
  | accessDeclined (access : Access)
  /-- The reserved CR4 bits in `bits` were to be set. -/
  | reservedBits (bits : UInt64)
  /-- An interrupt will be delivered on the next entry. -/
  | injectedInterrupt (vector : UInt8) (word : UInt32)
  /-- A protection fault will be delivered on the next entry. -/
  | injectedFault (word code : UInt32)
  /-- The exit does not describe the interrupt that caused it. -/
  | interruptUndescribed (word : UInt64)
  /-- Every handler declined the interrupt. -/
  | vectorDeclined (vector : UInt8)
  /-- No instruction has the length the exit gives. -/
  | lengthInvalid (length rip : UInt64)
  /-- The guest goes on at `new`. -/
  | ripAdvanced (old new : UInt64)
  /-- The exit cannot be resolved. -/
  | fatal (error : ExitError)
  /-- The exit reason of a fatal exit. -/
  | fatalReason (word : UInt32)
  /-- The exit qualification of a fatal exit. -/
  | fatalQualification (word : UInt64)
  /-- Where the guest was at a fatal exit. -/
  | fatalRip (rip : UInt64)
  /-- A line of a virtualizer's own record. -/
  | recorded (line : String)
  deriving DecidableEq, Repr

namespace Notice

/-- How grave a notice is. -/
def level : Notice → Level
  | vectorDeclined _ | lengthInvalid .. | fatal _ | fatalReason _ | fatalQualification _
  | fatalRip _ => .error
  | rerouted .. | lmswUnsupported .. | accessUnsupported _ | accessDeclined _
  | interruptUndescribed _ => .warn
  | recorded _ => .info
  | cr0WritesExit .. | cr4WritesExit .. | cr3ReadsExit | cr3WritesExit | interruptsExit
  | interruptsStay | reservedBits _ | injectedFault .. => .debug
  | routed .. | exited _ | accessed .. | injectedInterrupt .. | ripAdvanced .. => .trace

/-- The wording of a notice. -/
def text : Notice → String
  | routed reason route => "Routing " ++ reason.name ++ " exits to " ++ route.name
  | rerouted reason previous route =>
    reason.name ++ " exits were routed to " ++ previous.name ++ ", now to " ++ route.name
  | cr0WritesExit mask shadow =>
    "CR0 write exiting enabled: mask=" ++ hex mask.toNat ++ " shadow=" ++ hex shadow.toNat
  | cr4WritesExit mask shadow =>
    "CR4 write exiting enabled: mask=" ++ hex mask.toNat ++ " shadow=" ++ hex shadow.toNat
  | cr3ReadsExit => "CR3 read exiting enabled"
  | cr3WritesExit => "CR3 write exiting enabled"
  | interruptsExit => "External interrupt exiting enabled"
  | interruptsStay => "External interrupt exiting disabled"
  | exited reason => "VM exit: " ++ reason.name
  | accessed access gpr => "CR access: " ++ access.text ++ ", GPR=" ++ toString gpr.val
  | lmswUnsupported source memory =>
    "Unsupported LMSW: source data " ++ hex source.toNat ++ ", memory operand: " ++ toString memory
  | accessUnsupported access => "Unsupported control register access: " ++ access.text
  | accessDeclined access => "No handler claimed " ++ access.text
  | reservedBits bits => "MOV to CR4: #GP - reserved bits " ++ hex bits.toNat ++ " set"
  | injectedInterrupt vector word =>
    "Injecting external interrupt vector=" ++ toString vector.toNat
      ++ ": info=" ++ hex word.toNat
  | injectedFault word code =>
    "Injecting #GP: info=" ++ hex word.toNat ++ " error_code=" ++ hex code.toNat
  | interruptUndescribed word =>
    "External interrupt exit without valid interruption information: " ++ hex word.toNat
  | vectorDeclined vector => "Unhandled interrupt vector: " ++ toString vector.toNat
  | lengthInvalid length rip =>
    "Invalid instruction length " ++ toString length.toNat ++ " at RIP " ++ hex rip.toNat
      ++ " - defaulting to 1"
  | ripAdvanced old new => "Advanced guest RIP " ++ hex old.toNat ++ " -> " ++ hex new.toNat
  | fatal error => "Fatal VM exit: " ++ error.message
  | fatalReason word => "  Exit reason: " ++ hex word.toNat
  | fatalQualification word => "  Exit qualification: " ++ hex word.toNat
  | fatalRip rip => "  Guest RIP: " ++ hex rip.toNat
  | recorded line => line

/-- The lines of a text that was written, as notices, in order. Nothing is told of a text that was
not written to the end. -/
def dump : Text.Delivery → List Notice
  | .complete text => (Text.linesOf text).map recorded
  | .refused _ => []

end Notice

end GuestExit
