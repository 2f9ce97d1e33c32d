import GuestExit.Vm.State

/-!
# Taking an exit

`resolve` takes an exit from its reason to a decision. The reason is decoded and
routed, the virtualizer handles the exit, and a control register access that no
handler claimed is turned into an error. The guest resumes only if all of that went
well; otherwise four lines tell what was the matter, and the hypervisor stops.

`exit` goes one step further. If the hypervisor has to stop it puts the records of
both virtualizers into the log, a last time, and halts.
-/

namespace GuestExit

/-- What happens after an exit. -/
inductive Flow where
  /-- The guest goes on. -/
  | resume
  /-- The hypervisor must not go on. -/
  | stop
  deriving DecidableEq, Repr

/-- Why the processor halts. -/
inductive Halt where
  /-- An exit could not be resolved. -/
  | unrecoverable
  deriving DecidableEq, Repr

/-- What is told when the processor halts. -/
def Halt.message : Halt → String
  | unrecoverable => "Unrecoverable VM exit, stopping the hypervisor"

/-- The lines about an exit that cannot be resolved: the error, the exit reason, and what the
machine says about the exit and the guest by then. -/
def ExitError.report (error : ExitError) (reason : UInt32) (m : Machine) : List Notice :=
  [.fatal error, .fatalReason reason, .fatalQualification (m.vmcs.read .exitQualification),
    .fatalRip (m.vmcs.read .guestRip)]

/-- The error for an access that was declined, by the exit qualification as the handlers left it. -/
def ExitM.unclaimed : ExitM ExitError := do
  match Qualification.decode (← read .exitQualification) with
  | .ok q => return .unclaimedAccess q.access
  | .error e => return e

namespace VmM

variable {σ : Type}

/-- Routes an exit to the virtualizer registered for its reason. `false` means that nothing claimed
it. -/
def handleExit (reason : Reason) : VmM σ (Except ExitError Bool) := do
  match (← get).routes.lookup reason with
  | some route => handle route
  | none => return .error .unroutedExit

/-- Routes an exit, and fails if nothing claimed it. -/
def settle (reason : Reason) : VmM σ (Except ExitError Unit) := do
  tell [.exited reason]
  match ← handleExit reason with
  | .error e => return .error e
  | .ok true => return .ok ()
  | .ok false => return .error (← onMachine ExitM.unclaimed)

/-- Routes an exit by its exit-reason field, and fails if that holds no known reason. -/
def settleWord (word : UInt32) : VmM σ (Except ExitError Unit) :=
  match Reason.ofWord? word with
  | some reason => settle reason
  | none => return .error (.unknownReason word)

/-- Takes an exit, with the reason the machine gives, and decides whether the guest goes on. -/
def resolve : VmM σ Flow := do
  let word := (← onMachine (ExitM.read .exitReason)).toUInt32
  match ← settleWord word with
  | .ok () => return .resume
  | .error e =>
    tell (e.report word (← get).machine)
    return .stop

/-- Takes an exit, and halts if the guest cannot go on. The records of both virtualizers are put
into the log before, and recording ends, so that giving up the virtual CPU does not repeat them. -/
def exit : VmM σ (Except Halt Unit) := do
  match ← resolve with
  | .resume => return .ok ()
  | .stop =>
    tell (← get).dump
    modify fun vm => { vm with
      controlRegister := vm.controlRegister.setLogging false
      interrupt := vm.interrupt.setLogging false }
    return .error .unrecoverable

end VmM

end GuestExit
