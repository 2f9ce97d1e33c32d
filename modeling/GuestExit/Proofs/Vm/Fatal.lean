import GuestExit.Proofs.Vm.Decision

/-!
# Exits that stop the hypervisor

An exit can fail before any handler is asked, and it can fail because all handlers
that were asked declined. Either way nothing is half done: what a stopped
hypervisor leaves behind is what the handlers left (`LeftToHandlers`), and if none
was asked that is everything there was, down to the private states and the records.

Handlers may do whatever they like, also while declining, so this says nothing about
what the machine *is* after a fatal exit. It says who is to blame for it.
-/

namespace GuestExit

open ControlRegister (Trap)

variable {σ α : Type}

namespace Called

/-- What a handler that was called did. -/
def effects : Called σ → List Effect
  | .access _ c => c.outcome.effects
  | .interrupt c => c.outcome.effects

/-- The machine as a handler that was called left it. -/
def left : Called σ → Machine
  | .access _ c => c.left
  | .interrupt c => c.left

end Called

/-- The machine that the last of some handlers called left, or the given one if none was called. -/
def leftBy (m : Machine) (calls : List (Called σ)) : Machine :=
  (calls.getLast?.map Called.left).getD m

/-- Work on a virtual CPU that leaves the guest to the handlers. -/
structure LeftToHandlers (vm : Vm σ) (t : Transition σ α) : Prop where
  /-- The machine is the one that the last handler called left, or the one there was. -/
  machine : t.vm.machine = leftBy vm.machine t.calls
  /-- What was changed, and in which order, is what the handlers changed: no field written, no
  register saved and no instruction pointer moved by anyone else. -/
  changes : changes t.effects = changes (t.calls.flatMap Called.effects)

/-- Work on a virtual CPU that leaves all of it alone, and the handlers uncalled. -/
structure Untouched (vm : Vm σ) (t : Transition σ α) : Prop where
  /-- Machine, handlers with their states, records, counts, switches and routes are what they
  were. -/
  vm : t.vm = vm
  /-- No handler is called. -/
  calls : t.calls = []
  /-- Nothing is changed, not even by writing what was there before. -/
  changes : changes t.effects = []
  /-- In particular no field is written. -/
  writes : writes t.effects = []

namespace Vm

/-- Why an exit fails before any handler is asked. -/
inductive Refused (vm : Vm σ) : Prop where
  /-- The exit-reason field holds no reason. -/
  | unknown (h : Reason.ofWord? vm.reasonWord = none)
  /-- Nothing is registered for the reason. -/
  | unrouted {reason : Reason} (h : Reason.ofWord? vm.reasonWord = some reason)
    (hr : vm.routes.lookup reason = none)
  /-- The qualification names no control register. -/
  | invalid {reason : Reason} {e : ExitError} (h : Reason.ofWord? vm.reasonWord = some reason)
    (hr : vm.routes.lookup reason = some .controlRegister)
    (hq : Qualification.decode vm.qualificationWord = .error e)
  /-- There are no handlers for this kind of access. -/
  | unsupported {reason : Reason} {q : Qualification}
    (h : Reason.ofWord? vm.reasonWord = some reason)
    (hr : vm.routes.lookup reason = some .controlRegister)
    (hq : Qualification.decode vm.qualificationWord = .ok q)
    (ht : ∀ t : Trap, t.access ≠ q.access)

end Vm

/-! ## What a dispatch leaves -/

section Dispatch

variable {ι : Type} {wrap : Call σ ι → Called σ}

theorem leftBy_dispatch (hw : ∀ c, (wrap c).left = c.left) (chain : Chain σ ι) (info : ι)
    (m : Machine) :
    leftBy m ((chain.dispatch info m).value.calls.map wrap)
      = m.perform (chain.dispatch info m).effects := by
  have h := (Chain.traversal chain info m).handed.left
  rw [h, leftBy, List.getLast?_map, Option.map_map]
  congr 2
  exact funext hw

theorem effects_calls_dispatch (hw : ∀ c, (wrap c).effects = c.outcome.effects)
    (chain : Chain σ ι) (info : ι) (m : Machine) :
    ((chain.dispatch info m).value.calls.map wrap).flatMap Called.effects
      = (chain.dispatch info m).effects := by
  rw [Chain.effects_dispatch, List.flatMap_map]
  congr 1
  exact funext hw

end Dispatch

namespace VmM

/-! ## The virtualizers -/

/-- A control register access that is not claimed is left to the handlers. -/
theorem access_leftToHandlers {vm : Vm σ} (h : (handle .controlRegister vm).value ≠ .ok true) :
    LeftToHandlers vm (handle .controlRegister vm) := by
  rw [handle_controlRegister] at h ⊢
  cases hw : Trap.ofWord? (vm.machine.vmcs.read .exitQualification) with
  | none =>
    obtain ⟨e, hvalue, hquiet⟩ := vm.controlRegister.handle_of_untrapped hw
    constructor
    · dsimp only
      rw [vm.machine.perform_of_no_changes hquiet, hvalue]
      rfl
    · dsimp only
      rw [hquiet, hvalue]
      rfl
  | some p =>
    obtain ⟨t, g⟩ := p
    have hvalue := ControlRegister.Virtualizer.value_handle (v := vm.controlRegister) hw
    have hmachine := ControlRegister.Virtualizer.perform_handle (v := vm.controlRegister) hw
    have hchanges := ControlRegister.Virtualizer.changes_handle (v := vm.controlRegister) hw
    -- the answer is not a claim, so the handlers declined
    have hdeclined : (vm.controlRegister.ask t g vm.machine).value.claimed = false := by
      cases hc : (vm.controlRegister.ask t g vm.machine).value.claimed with
      | false => rfl
      | true =>
        have hclaimed : (vm.controlRegister.handle vm.machine).value.result = .ok true := by
          rw [hvalue, hc]
        exact absurd hclaimed h
    have hnothing := ControlRegister.Virtualizer.consequence_of_declined hdeclined
    constructor
    · dsimp only
      rw [hmachine, hnothing, hvalue, List.map_map]
      exact (leftBy_dispatch (fun _ => rfl) ..).symm
    · dsimp only
      rw [hchanges, hnothing, List.append_nil, hvalue, List.map_map]
      exact congrArg changes (effects_calls_dispatch (fun _ => rfl) ..).symm

/-- An interrupt is left to the handlers, claimed or not. -/
theorem interrupt_leftToHandlers (vm : Vm σ) :
    LeftToHandlers vm (handle .externalInterrupt vm) := by
  rw [handle_externalInterrupt]
  have ha := vm.interrupt.handle_answers vm.machine
  constructor
  · dsimp only
    rw [vm.machine.perform_congr ha.changes, ha.calls]
    exact (leftBy_dispatch (fun _ => rfl) ..).symm
  · dsimp only
    rw [ha.changes, ha.calls]
    exact congrArg changes (effects_calls_dispatch (fun _ => rfl) ..).symm

/-- An exit that is not claimed is left to the handlers, whichever virtualizer it goes to. -/
theorem handled_leftToHandlers {vm : Vm σ} (h : vm.handled.value ≠ .ok true) :
    LeftToHandlers vm vm.handled := by
  cases hr : vm.routed with
  | none =>
    rw [Vm.handled_of_unrouted hr]
    exact ⟨rfl, rfl⟩
  | some route =>
    rw [Vm.handled_of_routed hr] at h ⊢
    cases route with
    | controlRegister => exact access_leftToHandlers h
    | externalInterrupt => exact interrupt_leftToHandlers vm

theorem handle_of_untrapped {vm : Vm σ} (h : Trap.ofWord? vm.qualificationWord = none) :
    (handle .controlRegister vm).value ≠ .ok true ∧ (handle .controlRegister vm).vm = vm
      ∧ (handle .controlRegister vm).calls = []
      ∧ changes (handle .controlRegister vm).effects = [] := by
  obtain ⟨e, hvalue, hquiet⟩ := vm.controlRegister.handle_of_untrapped h
  rw [handle_controlRegister]
  dsimp only
  rw [hvalue, vm.machine.perform_of_no_changes hquiet]
  exact ⟨by simp [ControlRegister.Virtualizer.refuse], rfl, rfl, hquiet⟩

/-- An exit that is refused is not claimed, and leaves everything alone. -/
theorem handled_of_refused {vm : Vm σ} (h : vm.Refused) :
    vm.handled.value ≠ .ok true ∧ vm.handled.vm = vm ∧ vm.handled.calls = []
      ∧ changes vm.handled.effects = [] := by
  cases h with
  | unknown h =>
    have hr : vm.routed = none := by
      unfold Vm.routed
      rw [h]
      rfl
    rw [Vm.handled_of_unrouted hr]
    exact ⟨by simp, rfl, rfl, rfl⟩
  | unrouted h hr =>
    rw [Vm.handled_of_unrouted ((Vm.routed_of_reason h).trans hr)]
    exact ⟨by simp, rfl, rfl, rfl⟩
  | invalid h hr hq =>
    rw [Vm.handled_of_routed ((Vm.routed_of_reason h).trans hr)]
    apply handle_of_untrapped
    unfold Trap.ofWord?
    rw [hq]
  | @unsupported reason q h hr hq ht =>
    rw [Vm.handled_of_routed ((Vm.routed_of_reason h).trans hr)]
    apply handle_of_untrapped
    have hnone : Trap.ofAccess? q.access = none := by
      cases hs : Trap.ofAccess? q.access with
      | none => rfl
      | some t => exact absurd (Trap.ofAccess?_eq_some_iff.mp hs) (ht t)
    unfold Trap.ofWord?
    simp [hq, hnone]

/-! ## The decision -/

/--
**No exit is half applied.** If the hypervisor has to stop, the guest is left to the
handlers that were called; if the exit was refused before any was, the hypervisor
does have to stop, and nothing at all has happened.
-/
theorem resolve_not_half_applied (vm : Vm σ) :
    ((resolve vm).value = .stop → LeftToHandlers vm (resolve vm))
      ∧ (vm.Refused → (resolve vm).value = .stop ∧ Untouched vm (resolve vm)) := by
  obtain ⟨hvalue, hvm, hcalls, hchanges⟩ := resolve_follows vm
  have hstop : (resolve vm).value = .stop ↔ vm.handled.value ≠ .ok true := by
    rw [ne_eq, ← hvalue]
    cases (resolve vm).value <;> simp
  constructor
  · intro h
    obtain ⟨hmachine, hleft⟩ := handled_leftToHandlers (hstop.mp h)
    exact ⟨by rw [hvm, hcalls, hmachine], by rw [hchanges, hcalls, hleft]⟩
  · intro h
    obtain ⟨hno, huvm, hucalls, huchanges⟩ := handled_of_refused h
    have hnone := hchanges.trans huchanges
    refine ⟨hstop.mpr hno, hvm.trans huvm, hcalls.trans hucalls, hnone, ?_⟩
    rw [← writes_changes, hnone]
    rfl

/-- A handler that moves the guest's instruction pointer and then declines has moved it for good; a
qualification that names no control register stops the hypervisor before it is asked. -/
theorem resolve_not_half_applied_of_declined_of_invalid :
    let m : Machine := { vmcs := (({} : Vmcs).write .exitReason 28).write .exitQualification 0x300 }
    let declined : Vm Script.Tally :=
      { (Vm.create m).1 with
        controlRegister := ({} : ControlRegister.Virtualizer Script.Tally).register .writeCr0
          (Script.accessHandler "meddles" [.machine (.write .guestRip 0x10)] (.always false)) }
    let invalid : Vm Script.Tally :=
      { declined with machine := { m with vmcs := m.vmcs.write .exitQualification 0x5 } }
    ((resolve declined).value = .stop ∧ LeftToHandlers declined (resolve declined)
        ∧ (resolve declined).vm.machine.vmcs.read .guestRip = 0x10)
      ∧ invalid.Refused ∧ (resolve invalid).value = .stop
        ∧ Untouched invalid (resolve invalid) := by
  intro m declined invalid
  have hstop : (resolve declined).value = .stop := by decide
  have hword : invalid.qualificationWord = 0x5 := Vmcs.read_write_self ..
  have hq : Qualification.decode invalid.qualificationWord = .error (.invalidQualification 0x5) := by
    rw [hword]
    rfl
  have hreason : Reason.ofWord? invalid.reasonWord = some .controlRegisterAccesses := by decide
  have hrefused : invalid.Refused := .invalid hreason rfl hq
  exact ⟨⟨hstop, (resolve_not_half_applied declined).1 hstop, by decide⟩, hrefused,
    (resolve_not_half_applied invalid).2 hrefused⟩

end VmM

end GuestExit
