import GuestExit.Proofs.ControlRegister.Answer
import GuestExit.Proofs.Interrupt.Vector
import GuestExit.Vm.Exit

/-!
# How an exit is decided

Between the exit reason and the decision to resume stand four functions, each of
which can fail in a way of its own. All of them but one only look: the machine is
changed by the virtualizer that the exit is routed to and by nobody else. `handled`
is what that virtualizer makes of the exit, and `resolve_follows` says that the
decision, the machine, the handlers called and all changes are those of `handled`.
What the functions around it contribute are lines in the log.
-/

namespace GuestExit

variable {σ : Type}

namespace Vm

/-- The exit-reason field. -/
def reasonWord (vm : Vm σ) : UInt32 := (vm.machine.vmcs.read .exitReason).toUInt32

/-- The exit-qualification field. -/
def qualificationWord (vm : Vm σ) : UInt64 := vm.machine.vmcs.read .exitQualification

/-- The virtualizer an exit goes to: none if the reason is unknown or nothing is registered for
it. -/
def routed (vm : Vm σ) : Option Route :=
  (Reason.ofWord? vm.reasonWord).bind vm.routes.lookup

/-- What the virtualizer an exit goes to makes of it. -/
def handled (vm : Vm σ) : Transition σ (Except ExitError Bool) :=
  match vm.routed with
  | some route => VmM.handle route vm
  | none => ⟨.error .unroutedExit, vm, [], []⟩

theorem routed_of_reason {vm : Vm σ} {reason : Reason}
    (h : Reason.ofWord? vm.reasonWord = some reason) : vm.routed = vm.routes.lookup reason := by
  unfold routed
  rw [h]
  rfl

theorem handled_of_routed {vm : Vm σ} {route : Route} (h : vm.routed = some route) :
    vm.handled = VmM.handle route vm := by
  unfold handled
  rw [h]

theorem handled_of_unrouted {vm : Vm σ} (h : vm.routed = none) :
    vm.handled = ⟨.error .unroutedExit, vm, [], []⟩ := by
  unfold handled
  rw [h]

end Vm

/--
What a function makes of an exit that a virtualizer has handled: the answer `good`
if there was a claim, another one if not, and nothing else.
-/
structure Transition.Follows {α : Type} (good : α) (o : Transition σ α)
    (t : Transition σ (Except ExitError Bool)) : Prop where
  /-- The answer is good exactly if the exit was claimed. -/
  value : o.value = good ↔ t.value = .ok true
  /-- The virtual CPU is as the virtualizer left it. -/
  vm : o.vm = t.vm
  /-- No other handler is called. -/
  calls : o.calls = t.calls
  /-- There is no further effect but on the log. -/
  changes : changes o.effects = changes t.effects

namespace VmM

theorem handle_controlRegister (vm : Vm σ) :
    handle .controlRegister vm =
      let o := vm.controlRegister.handle vm.machine
      ⟨o.value.result,
        { vm with
          machine := vm.machine.perform o.effects
          controlRegister := o.value.virtualizer },
        o.value.calls.map fun c => .access c.1 c.2, o.effects⟩ := rfl

theorem handle_externalInterrupt (vm : Vm σ) :
    handle .externalInterrupt vm =
      let o := vm.interrupt.handle vm.machine
      ⟨o.value.result,
        { vm with
          machine := vm.machine.perform o.effects
          interrupt := o.value.virtualizer },
        o.value.calls.map .interrupt, o.effects⟩ := rfl

theorem handleExit_of_routed {vm : Vm σ} {reason : Reason} {route : Route}
    (h : vm.routes.lookup reason = some route) : handleExit reason vm = handle route vm := by
  simp [handleExit, bind_apply, h]

theorem handleExit_of_unrouted {vm : Vm σ} {reason : Reason}
    (h : vm.routes.lookup reason = none) :
    handleExit reason vm = ⟨.error .unroutedExit, vm, [], []⟩ := by
  simp [handleExit, bind_apply, h]

theorem effects_unclaimed (m : Machine) : (ExitM.unclaimed m).effects = [] := by
  unfold ExitM.unclaimed
  rw [ExitM.effects_bind, ExitM.value_read]
  cases Qualification.decode (m.vmcs.read .exitQualification) <;> rfl

theorem settle_follows (reason : Reason) (vm : Vm σ) :
    (settle reason vm).Follows (.ok ()) (handleExit reason vm) := by
  rcases hv : (handleExit reason vm).value with e | claimed
  · constructor <;> simp [settle, bind_apply, hv]
  · cases claimed with
    | true => constructor <;> simp [settle, bind_apply, hv]
    | false => constructor <;> simp [settle, bind_apply, hv, effects_unclaimed, ExitM.final]

theorem settleWord_follows (vm : Vm σ) :
    (settleWord vm.reasonWord vm).Follows (.ok ()) vm.handled := by
  unfold settleWord Vm.handled Vm.routed
  cases Reason.ofWord? vm.reasonWord with
  | none => exact ⟨iff_of_false (by simp) (by simp), rfl, rfl, rfl⟩
  | some reason =>
    have h := settle_follows reason vm
    dsimp only [Option.bind_some]
    cases hr : vm.routes.lookup reason with
    | none => rwa [handleExit_of_unrouted hr] at h
    | some route => rwa [handleExit_of_routed hr] at h

/-- **A decision follows what the virtualizer made of the exit.** -/
theorem resolve_follows (vm : Vm σ) : (resolve vm).Follows .resume vm.handled := by
  obtain ⟨hvalue, hvm, hcalls, hchanges⟩ := settleWord_follows vm
  unfold Vm.reasonWord at hvalue hvm hcalls hchanges
  cases hv : (settleWord (vm.machine.vmcs.read .exitReason).toUInt32 vm).value with
  | ok u =>
    refine ⟨iff_of_true ?_ (hvalue.mp hv), ?_, ?_, ?_⟩
    · simp [resolve, bind_apply, hv]
    · simp [resolve, bind_apply, hv, hvm]
    · simp [resolve, bind_apply, hv, hcalls]
    · simp [resolve, bind_apply, hv, hchanges]
  | error e =>
    have hno : ¬ vm.handled.value = .ok true := fun h => by
      rw [hvalue.mpr h] at hv
      exact absurd hv (by simp)
    refine ⟨iff_of_false ?_ hno, ?_, ?_, ?_⟩
    · simp [resolve, bind_apply, hv]
    · simp [resolve, bind_apply, hv, hvm]
    · simp [resolve, bind_apply, hv, hcalls]
    -- the four lines about the error are the only addition
    · simp [resolve, bind_apply, hv, hchanges]

end VmM

end GuestExit
