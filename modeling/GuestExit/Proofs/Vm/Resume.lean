import GuestExit.Proofs.Vm.Decision
import GuestExit.Proofs.Vm.Routing

/-!
# When the guest goes on

Of everything an exit can be, two things let the guest go on: an external interrupt
that some handler takes on, and a control register access that has a trap and that
some handler of this trap claims (`Claimed`). `resolve_resume_iff` says that these are
the only two, in every state that a virtual CPU can get into after it was brought up.

Two decoders and a table stand between the exit and the handlers. The table is the
same in all reachable states (`routes_after`), and together with the first decoder
it comes down to the low sixteen bits of the exit reason (`routed_eq_serving`). So
the bits above them have no say in who handles the exit, nor in which handlers are
asked.
-/

namespace GuestExit

open ControlRegister (Trap)

variable {σ : Type}

/-- A reason is read off the low sixteen bits of the field, and off nothing else. -/
theorem Reason.ofWord?_eq_some_iff {word : UInt64} {r : Reason} :
    ofWord? word.toUInt32 = some r ↔ r.code.toNat = word.toNat % 65536 := by
  unfold ofWord?
  rw [ofCode?_eq_some_iff]
  simp

/-- What handlers are asked about: an interrupt, or an access of some trap with some operand. -/
inductive Question where
  | interrupt
  | access (t : Trap) (g : Gpr)
  deriving DecidableEq, Repr

namespace Vm

/-- The number of the exit reason: the low sixteen bits of the field. -/
def reasonCode (vm : Vm σ) : Nat := (vm.machine.vmcs.read .exitReason).toNat % 65536

/-- The same virtual CPU with another word in the exit-reason field. -/
def withReason (vm : Vm σ) (word : UInt64) : Vm σ :=
  { vm with machine := { vm.machine with vmcs := vm.machine.vmcs.write .exitReason word } }

/-- What an exit asks of handlers, if anything. -/
def question? (vm : Vm σ) : Option Question :=
  match vm.routed with
  | some .externalInterrupt => some .interrupt
  | some .controlRegister => (Trap.ofWord? vm.qualificationWord).map fun p => .access p.1 p.2
  | none => none

/-- What an exit asks of handlers if the given virtualizer handles it. -/
def asks (vm : Vm σ) : Route → Option Question
  | .controlRegister => (Trap.ofWord? vm.qualificationWord).map fun p => .access p.1 p.2
  | .externalInterrupt => some .interrupt

theorem question?_eq_bind (vm : Vm σ) : vm.question? = vm.routed.bind vm.asks := by
  unfold question?
  cases vm.routed with
  | none => rfl
  | some route => cases route <;> rfl

/-- The calls that come of putting a question before the handlers it is for. -/
def consult (vm : Vm σ) : Question → List (Called σ)
  | .interrupt => (vm.interrupt.ask vm.machine).value.calls.map .interrupt
  | .access t g => (vm.controlRegister.ask t g vm.machine).value.calls.map (.access t)

/-- **An exit is claimed**: it is an interrupt and some handler takes it on, or it is an access that
has a trap and some handler of this trap claims it. -/
def Claimed (vm : Vm σ) : Prop :=
  (vm.reasonCode = 1
    ∧ vm.interrupt.handlers.Claims (Interrupt.initial vm.machine) vm.machine)
  ∨ (vm.reasonCode = 28
    ∧ ∃ q t, Qualification.decode vm.qualificationWord = .ok q ∧ q.access = t.access
      ∧ (vm.controlRegister.chains.get t).Claims (t.initial q.gpr vm.machine) vm.machine)

/-! ## Who handles an exit -/

/-- The routes laid at the start, by the number of the reason. -/
theorem serving_code (r : Reason) :
    serving r.code.toNat
      = if r = .externalInterrupt then some .externalInterrupt
        else if r = .controlRegisterAccesses then some .controlRegister else none := by
  cases r <;> rfl

/-- **With the routes laid at the start, the low sixteen bits decide** who handles an exit. -/
theorem routed_eq_serving {vm : Vm σ} {m : Machine}
    (h : vm.routes = (create (σ := σ) m).1.routes) : vm.routed = serving vm.reasonCode := by
  cases hr : Reason.ofWord? vm.reasonWord with
  | some r =>
    have hcode : r.code.toNat = vm.reasonCode := Reason.ofWord?_eq_some_iff.mp hr
    rw [routed_of_reason hr, h, lookup_create, ← hcode, serving_code]
  | none =>
    -- a number that is served is the number of a reason, which would have been found
    have hne : ∀ r : Reason, r.code.toNat ≠ vm.reasonCode := fun r hc => by
      have hsome : Reason.ofWord? vm.reasonWord = some r := Reason.ofWord?_eq_some_iff.mpr hc
      rw [hr] at hsome
      exact absurd hsome (by simp)
    have h₁ : vm.reasonCode ≠ 1 := (hne .externalInterrupt).symm
    have h₂ : vm.reasonCode ≠ 28 := (hne .controlRegisterAccesses).symm
    have hnone : vm.routed = none := by
      unfold routed
      rw [hr]
      rfl
    rw [hnone]
    unfold serving
    split
    · contradiction
    · contradiction
    · rfl

/-! ## Another word in the exit-reason field -/

theorem reasonCode_withReason (vm : Vm σ) (word : UInt64) :
    (vm.withReason word).reasonCode = word.toNat % 65536 := by
  unfold reasonCode withReason
  rw [Vmcs.read_write_self]

theorem qualificationWord_withReason (vm : Vm σ) (word : UInt64) :
    (vm.withReason word).qualificationWord = vm.qualificationWord :=
  Vmcs.read_write_of_ne _ _ (by decide)

/-- What is asked depends on the route and the qualification alone. -/
theorem question?_congr {vm vm' : Vm σ} (hr : vm'.routed = vm.routed)
    (hq : vm'.qualificationWord = vm.qualificationWord) : vm'.question? = vm.question? := by
  unfold question?
  rw [hr, hq]

end Vm

namespace VmM

/-! ## What the virtualizers answer -/

/-- An interrupt is claimed exactly if some handler takes it on. -/
theorem handle_interrupt_ok_iff (vm : Vm σ) :
    (handle .externalInterrupt vm).value = .ok true
      ↔ vm.interrupt.handlers.Claims (Interrupt.initial vm.machine) vm.machine := by
  rw [handle_externalInterrupt]
  dsimp only
  rw [(vm.interrupt.handle_answers vm.machine).result]
  have ht := Chain.traversal vm.interrupt.handlers (Interrupt.initial vm.machine) vm.machine
  rw [← ht.claimed_iff_claims]
  unfold Interrupt.Virtualizer.ask
  cases (vm.interrupt.handlers.dispatch (Interrupt.initial vm.machine) vm.machine).value.claimed <;>
    simp

/-- An access is claimed exactly if it has a trap and some handler of this trap claims it. -/
theorem handle_access_ok_iff (vm : Vm σ) :
    (handle .controlRegister vm).value = .ok true
      ↔ ∃ q t, Qualification.decode vm.qualificationWord = .ok q ∧ q.access = t.access
        ∧ (vm.controlRegister.chains.get t).Claims (t.initial q.gpr vm.machine) vm.machine := by
  rw [handle_controlRegister]
  dsimp only
  constructor
  · intro h
    cases hw : Trap.ofWord? (vm.machine.vmcs.read .exitQualification) with
    | none =>
      obtain ⟨e, hvalue, -⟩ := vm.controlRegister.handle_of_untrapped hw
      rw [hvalue] at h
      exact absurd h (by simp [ControlRegister.Virtualizer.refuse])
    | some p =>
      obtain ⟨t, g⟩ := p
      obtain ⟨q, hq, hshape, rfl⟩ := Trap.ofWord?_eq_some_iff.mp hw
      rw [ControlRegister.Virtualizer.value_handle hw] at h
      have ht := Chain.traversal (vm.controlRegister.chains.get t)
        (t.initial q.gpr vm.machine) vm.machine
      exact ⟨q, t, hq, hshape, ht.claimed_iff_claims.mp (Except.ok.inj h)⟩
  · rintro ⟨q, t, hq, hshape, hc⟩
    have hw : Trap.ofWord? (vm.machine.vmcs.read .exitQualification) = some (t, q.gpr) :=
      Trap.ofWord?_eq_some_iff.mpr ⟨q, hq, hshape, rfl⟩
    rw [ControlRegister.Virtualizer.value_handle hw]
    have ht := Chain.traversal (vm.controlRegister.chains.get t)
      (t.initial q.gpr vm.machine) vm.machine
    exact congrArg Except.ok (ht.claimed_iff_claims.mpr hc)

/-- **An exit is claimed by a virtualizer exactly if handlers claim it**, as long as the routes are
those laid at the start. -/
theorem handled_ok_iff {vm : Vm σ} (h : vm.routed = Vm.serving vm.reasonCode) :
    vm.handled.value = .ok true ↔ vm.Claimed := by
  by_cases h₁ : vm.reasonCode = 1
  · have hr : vm.routed = some .externalInterrupt := by rw [h, h₁]; rfl
    rw [Vm.handled_of_routed hr, handle_interrupt_ok_iff]
    unfold Vm.Claimed
    simp [h₁]
  · by_cases h₂ : vm.reasonCode = 28
    · have hr : vm.routed = some .controlRegister := by rw [h, h₂]; rfl
      rw [Vm.handled_of_routed hr, handle_access_ok_iff]
      unfold Vm.Claimed
      simp [h₂]
    -- no other number is served
    · have hr : vm.routed = none := by
        rw [h]
        unfold Vm.serving
        split
        · contradiction
        · contradiction
        · rfl
      rw [Vm.handled_of_unrouted hr]
      unfold Vm.Claimed
      simp [h₁, h₂]

/-- The handlers that a virtualizer calls are those that the question is put before. -/
theorem calls_handle (route : Route) (vm : Vm σ) :
    (handle route vm).calls = ((vm.asks route).map vm.consult).getD [] := by
  cases route with
  | externalInterrupt => exact congrArg _ (vm.interrupt.handle_answers vm.machine).calls
  | controlRegister =>
    rw [handle_controlRegister]
    unfold Vm.asks
    cases hw : Trap.ofWord? vm.qualificationWord with
    | none =>
      obtain ⟨e, hvalue, -⟩ := vm.controlRegister.handle_of_untrapped hw
      simp [hvalue, ControlRegister.Virtualizer.refuse]
    | some p =>
      have hvalue := ControlRegister.Virtualizer.value_handle (v := vm.controlRegister) hw
      simp [hvalue, Vm.consult]

theorem calls_handled (vm : Vm σ) :
    vm.handled.calls = (vm.question?.map vm.consult).getD [] := by
  rw [Vm.question?_eq_bind]
  cases hr : vm.routed with
  | none => rw [Vm.handled_of_unrouted hr]; rfl
  | some route =>
    rw [Vm.handled_of_routed hr]
    exact calls_handle route vm

/-! ## The decision -/

/--
**When the guest goes on.** In every state reached from the start it goes on exactly
if the exit is claimed, and stops otherwise. Another word in the exit-reason field
with the same low sixteen bits goes to the same virtualizer, before the same
handlers and no others.
-/
theorem resolve_resume_iff [Inhabited σ] (m : Machine) (steps : List (Step σ)) :
    let vm := (Vm.create m).1.after steps
    ((resolve vm).value = .resume ↔ vm.Claimed)
      ∧ ((resolve vm).value = .stop ↔ ¬ vm.Claimed)
      ∧ ∀ word : UInt64, word.toNat % 65536 = vm.reasonCode →
        (vm.withReason word).routed = vm.routed
          ∧ (resolve (vm.withReason word)).calls
            = (vm.question?.map (vm.withReason word).consult).getD [] := by
  intro vm
  have hroutes : vm.routes = (Vm.create (σ := σ) m).1.routes := Vm.routes_after _ _
  have hrouted := Vm.routed_eq_serving hroutes
  have hiff : (resolve vm).value = .resume ↔ vm.Claimed :=
    (resolve_follows vm).value.trans (handled_ok_iff hrouted)
  refine ⟨hiff, ?_, fun word hword => ?_⟩
  · rw [← hiff]
    cases (resolve vm).value <;> simp
  -- the routes are no different on a machine with another word in the field
  · have hsame : (vm.withReason word).routed = vm.routed := by
      rw [hrouted, ← hword, ← vm.reasonCode_withReason word]
      exact Vm.routed_eq_serving hroutes
    refine ⟨hsame, ?_⟩
    rw [(resolve_follows _).calls, calls_handled,
      Vm.question?_congr hsame (vm.qualificationWord_withReason word)]

/-- An interrupt that the only handler takes on, and the same with bits set above the sixteen that
count: the handler is asked then too. -/
theorem resolve_resume_iff_of_high_bits :
    let m : Machine := { vmcs := ({} : Vmcs).write .exitReason 0x1 }
    let vm : Vm Script.Tally := (Vm.create m).1.after
      [.addInterruptHandler (Script.interruptHandler "accepts" [] (.always true))]
    let word : UInt64 := 0x123480000001
    (vm.Claimed ∧ word.toNat % 65536 = vm.reasonCode)
      ∧ (vm.withReason word).routed = some .externalInterrupt
      ∧ (resolve (vm.withReason word)).calls = (vm.withReason word).consult .interrupt
      ∧ (resolve (vm.withReason word)).calls.length = 1 := by
  intro m vm word
  obtain ⟨hresume, -, hword⟩ := resolve_resume_iff (σ := Script.Tally) m
    [.addInterruptHandler (Script.interruptHandler "accepts" [] (.always true))]
  have hcode : word.toNat % 65536 = vm.reasonCode := by decide
  obtain ⟨hrouted, hcalls⟩ := hword word hcode
  have hquestion : vm.question? = some .interrupt := by decide
  refine ⟨⟨hresume.mp (by decide), hcode⟩, hrouted, ?_, by decide⟩
  rw [hcalls, hquestion]
  rfl

end VmM

end GuestExit
