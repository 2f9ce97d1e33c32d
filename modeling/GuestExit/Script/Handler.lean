import GuestExit.ControlRegister.Policy
import GuestExit.Chain.Handler
import GuestExit.Interrupt.Virtualizer
import GuestExit.Script.Claim

/-!
# Scripted handlers

Handlers written down as data: a list of actions and a rule for claiming. On every
call the actions are done in order, each on what the one before it left; the call
is counted, and the rule decides.
-/

namespace GuestExit.Script

open ExitM

/-- An action on the machine, open to every handler. -/
inductive MachineAction where
  | write (field : Field) (value : UInt64)
  | setBits (field : Field) (bits : UInt64)
  | clearBits (field : Field) (bits : UInt64)
  | save (register : Register) (value : UInt64)
  | writeGpr (gpr : Gpr) (value : UInt64)
  | advanceRip
  | injectInterrupt (vector : UInt8)
  | injectFault (code : UInt32)
  deriving DecidableEq, Repr

/-- Does an action on the machine. -/
def MachineAction.run : MachineAction → ExitM Unit
  | write field value => ExitM.write field value
  | setBits field bits => ExitM.setBits field bits
  | clearBits field bits => ExitM.clearBits field bits
  | save register value => ExitM.save register value
  | writeGpr gpr value => ExitM.writeGpr gpr value
  | advanceRip => ExitM.advanceRip
  | injectInterrupt vector => ExitM.injectInterrupt vector
  | injectFault code => ExitM.injectFault code

/-- An action of a handler of control register accesses. -/
inductive AccessAction where
  | machine (action : MachineAction)
  /-- The value becomes the given one. -/
  | value (value : UInt64)
  /-- Only the given bits of the value are kept. -/
  | mask (bits : UInt64)
  /-- The given bits of the value are set. -/
  | raise (bits : UInt64)
  /-- The value becomes that of a general-purpose register. -/
  | valueFromGpr (gpr : Gpr)
  | shadow (shadow : UInt64)
  | ignoreWrite (on : Bool)
  | ignoreAdvance (on : Bool)
  /-- The descriptor is cleared. -/
  | clear
  | hideVmxe
  | rejectReserved
  deriving DecidableEq, Repr

/-- Does an action, given the descriptor and what the last policy said. -/
def AccessAction.run (action : AccessAction) (info : ControlRegister.Descriptor) (policy : Bool) :
    ExitM (ControlRegister.Descriptor × Bool) :=
  match action with
  | machine action => do
    action.run
    return (info, policy)
  | value v => return ({ info with value := v }, policy)
  | mask bits => return ({ info with value := info.value &&& bits }, policy)
  | raise bits => return ({ info with value := info.value ||| bits }, policy)
  | valueFromGpr gpr => return ({ info with value := ← readGpr gpr }, policy)
  | shadow s => return ({ info with shadow := s }, policy)
  | ignoreWrite on => return ({ info with ignoreWrite := on }, policy)
  | ignoreAdvance on => return ({ info with ignoreAdvance := on }, policy)
  | clear => return ({}, policy)
  | hideVmxe => ControlRegister.hideVmxe info
  | rejectReserved => ControlRegister.rejectReserved info

/-- An action of a handler of external interrupts. -/
inductive InterruptAction where
  | machine (action : MachineAction)
  /-- The vector becomes the given one. -/
  | vector (vector : UInt8)
  /-- The interrupt goes back to the guest. -/
  | reinject
  deriving DecidableEq, Repr

/-- Does an action, given the descriptor. No policies are asked about interrupts. -/
def InterruptAction.run (action : InterruptAction) (info : Interrupt.Descriptor) (policy : Bool) :
    ExitM (Interrupt.Descriptor × Bool) :=
  match action with
  | machine action => do
    action.run
    return (info, policy)
  | vector v => return ({ info with vector := v }, policy)
  | reinject => do
    ExitM.injectInterrupt info.vector
    return (info, policy)

variable {ι α : Type}

/-- Does actions in order, each on what the one before it left. -/
def runAll (run : α → ι → Bool → ExitM (ι × Bool)) : List α → ι → Bool → ExitM (ι × Bool)
  | [], info, policy => return (info, policy)
  | action :: rest, info, policy => do
    let (info, policy) ← run action info policy
    runAll run rest info policy

/-- A handler with a name, actions and a rule for claiming. `key` is the value the rule looks at. -/
def handler (name : String) (run : α → ι → Bool → ExitM (ι × Bool)) (key : ι → UInt64)
    (actions : List α) (rule : ClaimRule) : Handler Tally ι where
  state := { name := some name }
  react tally info := do
    let (info, policy) ← runAll run actions info false
    let tally := { tally with calls := tally.calls + 1 }
    return { state := tally, info, claims := rule.holds tally.calls (key info) policy }

/-- A scripted handler of control register accesses. -/
def accessHandler (name : String) (actions : List AccessAction) (rule : ClaimRule) :
    Handler Tally ControlRegister.Descriptor :=
  handler name AccessAction.run (·.value) actions rule

/-- A scripted handler of external interrupts. -/
def interruptHandler (name : String) (actions : List InterruptAction) (rule : ClaimRule) :
    Handler Tally Interrupt.Descriptor :=
  handler name InterruptAction.run (·.vector.toUInt64) actions rule

/-- A handler of bare numbers, each of which it adds to, modulo 2^64. -/
def adder (name : String) (summand : UInt64) (rule : ClaimRule) : Handler Tally UInt64 :=
  handler name (fun (a : UInt64) info policy => return (info + a, policy)) id [summand] rule

end GuestExit.Script
