import GuestExit.ControlRegister.Policy
import GuestExit.Vm.Exit

/-!
# Runs

Everything that can happen to a virtual CPU over its life, one step at a time:
handlers are registered, exiting is switched, the machine changes under the
hypervisor, exits are taken, records are dumped and virtualizers are replaced. A
run is a list of steps, each going on where the one before it stopped, and it goes
on after a fatal exit too.
-/

namespace GuestExit

/-- One thing that can happen to a virtual CPU. -/
inductive Step (σ : Type) where
  /-- The machine changes behind the hypervisor's back. -/
  | assign (fields : List (Field × UInt64)) (registers : List (Register × UInt64))
  /-- A handler is registered for a control register access. -/
  | addAccessHandler (trap : ControlRegister.Trap) (handler : Handler σ ControlRegister.Descriptor)
  /-- A handler is registered for external interrupts. -/
  | addInterruptHandler (handler : Handler σ Interrupt.Descriptor)
  /-- From now on interrupts that no later handler takes on go back to the guest. -/
  | addReinjection
  | trapCr0Writes (mask shadow : UInt64)
  | trapCr4Writes (mask shadow : UInt64)
  | trapCr3Reads
  | trapCr3Writes
  | trapInterrupts
  | untrapInterrupts
  /-- A virtualizer's recording is switched on or off. -/
  | setLogging (which : Route) (on : Bool)
  | setBits (field : Field) (bits : UInt64)
  | clearBits (field : Field) (bits : UInt64)
  | readGpr (gpr : Gpr)
  | writeGpr (gpr : Gpr) (value : UInt64)
  | advanceRip
  | injectInterrupt (vector : UInt8)
  | injectFault (code : UInt32)
  /-- An exit is routed by the given reason. -/
  | handleExit (reason : Reason)
  /-- A virtualizer handles an exit without any routing. -/
  | handle (which : Route)
  /-- An exit is taken. -/
  | resolve
  /-- An exit is taken, and the processor halts if it is fatal. -/
  | exit
  /-- A virtualizer's records are put into the log. -/
  | dump (which : Route)
  /-- Both virtualizers' records are put into the log. -/
  | dumpAll
  /-- A virtualizer makes room for a new one. -/
  | replace (which : Route)

/-- What a step answers. -/
inductive Answer where
  /-- Nothing but that it is done. -/
  | done
  /-- The value of a register. -/
  | value (value : UInt64)
  /-- Whether an exit was claimed, or why it could not be resolved. -/
  | claimed (result : Except ExitError Bool)
  /-- Whether the guest goes on. -/
  | flow (flow : Flow)
  /-- That the guest goes on, or why the processor halts. -/
  | halted (result : Except Halt Unit)

namespace Machine

/-- The machine with the given fields and registers written, in order. -/
def assign (m : Machine) (fields : List (Field × UInt64)) (registers : List (Register × UInt64)) :
    Machine where
  vmcs := fields.foldl (fun s p => s.write p.1 p.2) m.vmcs
  saved := registers.foldl (fun s p => s.write p.1 p.2) m.saved

end Machine

namespace VmM

variable {σ : Type}

/-- Puts a virtualizer's records into the log. -/
def dump : Route → VmM σ Unit
  | .controlRegister => do tell (← get).controlRegister.dump
  | .externalInterrupt => do tell (← get).interrupt.dump

/-- Puts a new virtualizer in place of an old one. The new one is constructed on routes of its own,
not those of the virtual CPU, before the old one is given up. -/
def replace : Route → VmM σ Unit
  | .controlRegister => do
    tell (({} : Routes).construct .controlRegister).told
    tell (← get).controlRegister.retire
    modify fun vm => { vm with controlRegister := {} }
  | .externalInterrupt => do
    tell (({} : Routes).construct .externalInterrupt).told
    tell (← get).interrupt.retire
    modify fun vm => { vm with interrupt := {} }

/-- Switches a virtualizer's recording on or off. -/
def setLogging : Route → Bool → VmM σ Unit
  | .controlRegister, on => modify fun vm =>
    { vm with controlRegister := vm.controlRegister.setLogging on }
  | .externalInterrupt, on => modify fun vm => { vm with interrupt := vm.interrupt.setLogging on }

/-- Works on the machine, with nothing to answer. -/
def work (x : ExitM Unit) : VmM σ Answer := do
  onMachine x
  return .done

/-- Takes one step. -/
def step [Inhabited σ] : Step σ → VmM σ Answer
  | .assign fields registers => do
    modify fun vm => { vm with machine := vm.machine.assign fields registers }
    return .done
  | .addAccessHandler trap handler => do
    modify fun vm => { vm with controlRegister := vm.controlRegister.register trap handler }
    return .done
  | .addInterruptHandler handler => do
    modify fun vm => { vm with interrupt := vm.interrupt.register handler }
    return .done
  | .addReinjection => do
    modify fun vm => { vm with interrupt := vm.interrupt.registerReinjection }
    return .done
  | .trapCr0Writes mask shadow => work (ControlRegister.trapCr0Writes mask shadow)
  | .trapCr4Writes mask shadow => work (ControlRegister.trapCr4Writes mask shadow)
  | .trapCr3Reads => work ControlRegister.trapCr3Reads
  | .trapCr3Writes => work ControlRegister.trapCr3Writes
  | .trapInterrupts => work Interrupt.trapInterrupts
  | .untrapInterrupts => work Interrupt.untrapInterrupts
  | .setLogging which on => do
    setLogging which on
    return .done
  | .setBits field bits => work (ExitM.setBits field bits)
  | .clearBits field bits => work (ExitM.clearBits field bits)
  | .readGpr gpr => return .value (← onMachine (ExitM.readGpr gpr))
  | .writeGpr gpr value => work (ExitM.writeGpr gpr value)
  | .advanceRip => work ExitM.advanceRip
  | .injectInterrupt vector => work (ExitM.injectInterrupt vector)
  | .injectFault code => work (ExitM.injectFault code)
  | .handleExit reason => return .claimed (← handleExit reason)
  | .handle which => return .claimed (← handle which)
  | .resolve => return .flow (← resolve)
  | .exit => return .halted (← exit)
  | .dump which => do
    dump which
    return .done
  | .dumpAll => do
    tell (← get).dump
    return .done
  | .replace which => do
    replace which
    return .done

end VmM

namespace Vm

variable {σ : Type} [Inhabited σ]

/-- The transitions of a run, one for each step. -/
def run (vm : Vm σ) : List (Step σ) → List (Transition σ Answer)
  | [] => []
  | s :: rest =>
    let t := VmM.step s vm
    t :: t.vm.run rest

/-- The virtual CPU a run leaves. -/
def after (vm : Vm σ) (steps : List (Step σ)) : Vm σ :=
  steps.foldl (fun vm s => (VmM.step s vm).vm) vm

@[simp] theorem run_nil (vm : Vm σ) : vm.run [] = [] := rfl

theorem run_cons (vm : Vm σ) (s : Step σ) (rest : List (Step σ)) :
    vm.run (s :: rest) = VmM.step s vm :: (VmM.step s vm).vm.run rest := rfl

@[simp] theorem after_nil (vm : Vm σ) : vm.after [] = vm := rfl

@[simp] theorem after_cons (vm : Vm σ) (s : Step σ) (rest : List (Step σ)) :
    vm.after (s :: rest) = (VmM.step s vm).vm.after rest := rfl

@[simp] theorem after_append (vm : Vm σ) (a b : List (Step σ)) :
    vm.after (a ++ b) = (vm.after a).after b :=
  List.foldl_append

end Vm

end GuestExit
