import GuestExit.Proofs.Machine.Fields
import GuestExit.Proofs.Vm.Fatal
import GuestExit.Proofs.Vm.Resume
import GuestExit.Proofs.Vm.Router

/-!
# Accesses that nobody claims

An access that all handlers of its trap decline is no failure of the virtualizer, which says
so and leaves it at that. It is the one answer that is neither good nor an error, and whoever
routed the exit makes an error of it. By then the trap is no longer known, so the
qualification is decoded once more, and the error names what it says now.

Handlers may have written that field in between, and then the error is about what they wrote.
If they have not, the second decoding cannot go wrong where the first one did not, and the
error names the access that was declined (`declined_is_escalated`). No interrupt ever comes
this way: one that nobody takes on is an error from the start.
-/

namespace GuestExit

open ControlRegister (Trap)

variable {σ : Type}

/-- The error for an access that was declined, by what the exit qualification says by then. -/
def ExitError.ofDeclined (word : UInt64) : ExitError :=
  match Qualification.decode word with
  | .ok q => .unclaimedAccess q.access
  | .error e => e

theorem ExitM.value_unclaimed (m : Machine) :
    (ExitM.unclaimed m).value = .ofDeclined (m.vmcs.read .exitQualification) := by
  unfold ExitM.unclaimed ExitError.ofDeclined
  rw [ExitM.value_bind, ExitM.value_read]
  cases Qualification.decode (m.vmcs.read .exitQualification) <;> rfl

/-- An access of trap `t`, described by `q`, went down the chain of this trap in `calls`, and all
handlers there are declined it. -/
structure Declined (vm : Vm σ) (q : Qualification) (t : Trap) (calls : List (Called σ)) : Prop where
  /-- The exit qualification names the access, -/
  decoded : Qualification.decode vm.qualificationWord = .ok q
  /-- which has a trap. -/
  trapped : q.access = t.access
  /-- The handlers of that trap are called for it and no others, -/
  calls : calls = (vm.controlRegister.ask t q.gpr vm.machine).value.calls.map (.access t)
  /-- all of them, the newest first, -/
  everyone : (vm.controlRegister.ask t q.gpr vm.machine).value.calls.map (·.handler)
    = (List.range (vm.controlRegister.chains.get t).length).reverse
  /-- and every one declines. -/
  declines : ∀ c ∈ (vm.controlRegister.ask t q.gpr vm.machine).value.calls, c.claims = false

namespace Declined

variable {vm : Vm σ} {q : Qualification} {t : Trap} {calls : List (Called σ)}

theorem ofWord? (h : Declined vm q t calls) :
    Trap.ofWord? (vm.machine.vmcs.read .exitQualification) = some (t, q.gpr) :=
  Trap.ofWord?_eq_some_iff.mpr ⟨q, h.decoded, h.trapped, rfl⟩

/-- Where everyone declines, the answer of the chain is no claim. -/
theorem claimed (h : Declined vm q t calls) :
    (vm.controlRegister.ask t q.gpr vm.machine).value.claimed = false := by
  have ht := Chain.traversal (vm.controlRegister.chains.get t) (t.initial q.gpr vm.machine) vm.machine
  have hlength := congrArg List.length h.everyone
  rw [List.length_map, List.length_reverse, List.length_range] at hlength
  exact ht.declined_iff.mpr ⟨hlength, h.declines⟩

end Declined

namespace VmM

/-! ## Who may decline -/

/-- **The virtualizer of control registers declines an access exactly if all its handlers do.** -/
theorem handle_access_declined_iff (vm : Vm σ) :
    (handle .controlRegister vm).value = .ok false
      ↔ ∃ q t, Declined vm q t (handle .controlRegister vm).calls := by
  rw [handle_controlRegister]
  dsimp only
  constructor
  · intro h
    cases hw : Trap.ofWord? (vm.machine.vmcs.read .exitQualification) with
    | none =>
      -- an access without a trap is an error, not a refusal
      obtain ⟨e, hvalue, -⟩ := vm.controlRegister.handle_of_untrapped hw
      rw [hvalue] at h
      exact absurd h (by simp [ControlRegister.Virtualizer.refuse])
    | some p =>
      obtain ⟨t, g⟩ := p
      obtain ⟨q, hq, htrapped, rfl⟩ := Trap.ofWord?_eq_some_iff.mp hw
      rw [ControlRegister.Virtualizer.value_handle hw] at h ⊢
      have ht := Chain.traversal (vm.controlRegister.chains.get t)
        (t.initial q.gpr vm.machine) vm.machine
      obtain ⟨hlength, hdeclines⟩ := ht.declined_iff.mp (Except.ok.inj h)
      have hall := ht.handlers
      rw [hlength, List.take_of_length_le (by simp)] at hall
      exact ⟨q, t, hq, htrapped, List.map_map, hall, hdeclines⟩
  · rintro ⟨q, t, h⟩
    rw [ControlRegister.Virtualizer.value_handle h.ofWord?, h.claimed]

/-- **An interrupt is taken on or it is an error**, whatever the handlers and the machine. -/
theorem handle_interrupt_decides (v : Interrupt.Virtualizer σ) (m : Machine) :
    (v.handle m).value.result = .ok true
      ∨ (v.handle m).value.result = .error (.unhandledVector (Interrupt.initial m).vector) := by
  rw [(v.handle_answers m).result]
  split
  · exact .inl rfl
  · exact .inr rfl

/-- So with exact routes only an access to a control register can be declined. -/
theorem handleExit_declined_iff {vm : Vm σ} (h : vm.routes.Exact) (reason : Reason) :
    (handleExit reason vm).value = .ok false
      ↔ reason = .controlRegisterAccesses
        ∧ ∃ q t, Declined vm q t (handleExit reason vm).calls := by
  by_cases hr : ∃ route : Route, reason = route.reason
  · obtain ⟨route, rfl⟩ := hr
    rw [handleExit_of_exact h route]
    cases route with
    | controlRegister =>
      rw [handle_access_declined_iff]
      exact (and_iff_right rfl).symm
    | externalInterrupt =>
      have hne : Route.externalInterrupt.reason ≠ .controlRegisterAccesses := by decide
      rw [handle_externalInterrupt]
      refine iff_of_false ?_ fun hc => hne hc.1
      rcases handle_interrupt_decides vm.interrupt vm.machine with hv | hv <;> simp [hv]
  · have other : ∀ route, reason ≠ Route.reason route := fun route e => hr ⟨route, e⟩
    rw [handleExit_of_unrouted (h.lookup_eq_none other)]
    exact iff_of_false (by simp) fun hc => other .controlRegister hc.1

/-! ## What becomes of it -/

/-- **An exit that is declined fails**, by the exit qualification as it is then. -/
theorem settle_of_declined {vm : Vm σ} {reason : Reason}
    (h : (handleExit reason vm).value = .ok false) :
    (settle reason vm).value = .error (.ofDeclined (handleExit reason vm).vm.qualificationWord) := by
  simp [settle, bind_apply, h, ExitM.value_unclaimed, Vm.qualificationWord]

/-- Where no handler called wrote the exit qualification, it says what it said before. -/
theorem qualificationWord_of_declined {vm : Vm σ}
    (h : (handle .controlRegister vm).value = .ok false)
    (kept : ∀ c ∈ (handle .controlRegister vm).calls, ∀ v,
      Effect.write .exitQualification v ∉ c.effects) :
    (handle .controlRegister vm).vm.qualificationWord = vm.qualificationWord := by
  have hunclaimed : (handle .controlRegister vm).value ≠ .ok true := by simp [h]
  have hleft := access_leftToHandlers hunclaimed
  have hmachine : (handle .controlRegister vm).vm.machine
      = vm.machine.perform ((handle .controlRegister vm).calls.flatMap Called.effects) :=
    vm.machine.perform_congr hleft.changes
  unfold Vm.qualificationWord
  rw [hmachine]
  refine Machine.read_perform (fun v hv => ?_) vm.machine
  obtain ⟨c, hc, hwrite⟩ := List.mem_flatMap.mp hv
  exact kept c hc v hwrite

/--
**An access that nobody claims is escalated.** Whatever happened to a virtual CPU before, an exit
is declined exactly if it is an access that has a trap and every handler of this trap
declines it. Routing it then fails, with the error that the exit qualification gives as the
last handler left it; and if none of them wrote that field, the error names the access that was
declined. An interrupt is never declined: it is taken on, or an error about its vector.
-/
theorem declined_is_escalated [Inhabited σ] (m : Machine) (steps : List (Step σ)) :
    let now := (Vm.create m).1.after steps
    (∀ reason, (handleExit reason now).value = .ok false
        ↔ reason = .controlRegisterAccesses
          ∧ ∃ q t, Declined now q t (handleExit reason now).calls)
      ∧ (∀ reason, (handleExit reason now).value = .ok false →
        (settle reason now).value = .error (.ofDeclined
          ((leftBy now.machine (handleExit reason now).calls).vmcs.read .exitQualification)))
      ∧ (∀ q t, Declined now q t (handleExit .controlRegisterAccesses now).calls →
        (∀ c ∈ (handleExit .controlRegisterAccesses now).calls, ∀ v,
          Effect.write .exitQualification v ∉ c.effects) →
        Qualification.decode (handleExit .controlRegisterAccesses now).vm.qualificationWord = .ok q
          ∧ (settle .controlRegisterAccesses now).value = .error (.unclaimedAccess t.access))
      ∧ ∀ (v : Interrupt.Virtualizer σ) (m' : Machine), (v.handle m').value.result = .ok true
        ∨ (v.handle m').value.result = .error (.unhandledVector (Interrupt.initial m').vector) := by
  intro now
  have exact : now.routes.Exact := Vm.routes_after_exact m steps
  have hdeclined := fun reason => handleExit_declined_iff exact reason
  have hrouted : handleExit .controlRegisterAccesses now = handle .controlRegister now :=
    handleExit_of_exact exact .controlRegister
  refine ⟨hdeclined, fun reason h => ?_, fun q t h kept => ?_, handle_interrupt_decides⟩
  · obtain ⟨rfl, -⟩ := (hdeclined reason).mp h
    rw [settle_of_declined h]
    rw [hrouted] at h ⊢
    have hunclaimed : (handle .controlRegister now).value ≠ .ok true := by simp [h]
    rw [Vm.qualificationWord, (access_leftToHandlers hunclaimed).machine]
  · have hvalue : (handleExit .controlRegisterAccesses now).value = .ok false :=
      (hdeclined _).mpr ⟨rfl, q, t, h⟩
    have hword : (handleExit .controlRegisterAccesses now).vm.qualificationWord
        = now.qualificationWord := by
      rw [hrouted] at hvalue kept ⊢
      exact qualificationWord_of_declined hvalue kept
    have herror : ExitError.ofDeclined now.qualificationWord = .unclaimedAccess t.access := by
      unfold ExitError.ofDeclined
      rw [h.decoded, ← h.trapped]
    exact ⟨hword ▸ h.decoded, by rw [settle_of_declined hvalue, hword, herror]⟩

/-- Two handlers decline a write of CR0, one of them after moving the guest's instruction pointer:
the error names the access. Once a third declines as well and writes the exit qualification, the
error is about the word it wrote, which names no register. -/
theorem declined_is_escalated_by_meddler :
    let m : Machine := { vmcs := ({} : Vmcs).write .exitQualification 0x300 }
    let steps : List (Step Script.Tally) :=
      [.addAccessHandler .writeCr0 (Script.accessHandler "idles" [] (.always false)),
        .addAccessHandler .writeCr0
          (Script.accessHandler "moves" [.machine (.write .guestRip 0x10)] (.always false))]
    let meddling : List (Step Script.Tally) := steps ++
      [.addAccessHandler .writeCr0
        (Script.accessHandler "meddles" [.machine (.write .exitQualification 0x5)] (.always false))]
    let now := (Vm.create m).1.after steps
    let later := (Vm.create m).1.after meddling
    (Declined now ⟨Trap.writeCr0.access, 3, false, 0⟩ .writeCr0
        (handleExit .controlRegisterAccesses now).calls
        ∧ (∀ c ∈ (handleExit .controlRegisterAccesses now).calls, ∀ v,
          Effect.write .exitQualification v ∉ c.effects)
        ∧ (settle .controlRegisterAccesses now).value
          = .error (.unclaimedAccess Trap.writeCr0.access))
      ∧ (handleExit .controlRegisterAccesses later).value = .ok false
        ∧ (settle .controlRegisterAccesses later).value = .error (.invalidQualification 0x5) := by
  intro m steps meddling now later
  obtain ⟨hdeclined, -, hkept, -⟩ := declined_is_escalated m steps
  obtain ⟨-, hleft, -, -⟩ := declined_is_escalated m meddling
  have hok : ∀ {x : Except ExitError Bool}, x.toOption = some false → x = .ok false := by
    intro x h
    cases x with
    | error e => contradiction
    | ok claimed => exact congrArg Except.ok (Option.some.inj h)
  have hvalue : (handleExit .controlRegisterAccesses now).value = .ok false := hok (by decide)
  have hmeddled : (handleExit .controlRegisterAccesses later).value = .ok false := hok (by decide)
  have hword : now.qualificationWord = 0x300 := Vmcs.read_write_self ..
  have hq : Qualification.decode now.qualificationWord
      = .ok ⟨Trap.writeCr0.access, 3, false, 0⟩ := by
    rw [hword]
    rfl
  obtain ⟨-, q, t, hd⟩ := (hdeclined _).mp hvalue
  obtain rfl : q = _ := Except.ok.inj (hd.decoded.symm.trans hq)
  obtain rfl : t = .writeCr0 :=
    Option.some.inj (Trap.ofAccess?_eq_some_iff.mpr hd.trapped.symm).symm
  have heffects : (handleExit .controlRegisterAccesses now).calls.flatMap Called.effects
      = [.write .guestRip 0x10] := by decide
  have kept : ∀ c ∈ (handleExit .controlRegisterAccesses now).calls, ∀ v,
      Effect.write .exitQualification v ∉ c.effects := by
    intro c hc v hv
    have hmem := List.mem_flatMap.mpr ⟨c, hc, hv⟩
    rw [heffects, List.mem_singleton] at hmem
    exact absurd (Effect.write.inj hmem).1 (by decide)
  have hwritten : (leftBy later.machine
      (handleExit .controlRegisterAccesses later).calls).vmcs.read .exitQualification = 0x5 := by
    decide
  refine ⟨⟨hd, kept, (hkept _ _ hd kept).2⟩, hmeddled, ?_⟩
  rw [hleft _ hmeddled, hwritten]
  rfl

end VmM

end GuestExit
