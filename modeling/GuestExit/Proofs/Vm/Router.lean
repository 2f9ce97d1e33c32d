import GuestExit.Proofs.Vm.Decision
import GuestExit.Proofs.Vm.Routing
import GuestExit.Script.Handler

/-!
# The router adds nothing

Between an exit reason and a virtualizer stands a table, and a table could send an exit
anywhere. It never does: whatever happened to a virtual CPU since it was brought up, each
of the two virtualizers is found under its own reason, and nothing is found under any
other (`Routes.Exact`). Fatal exits do not change that, and neither does a virtualizer put
in place of another, although it is registered as well: it is so with routes of its own.

So the router is transparent. An exit for the reason of a virtualizer is what the
virtualizer in place makes of it, called on the machine directly, down to the order of the
fields written and the lines logged; an exit for any other reason is refused before
anything happens.
-/

namespace GuestExit

variable {σ : Type}

/-- Each virtualizer is found under its own reason, and nothing under any other. -/
def Routes.Exact (routes : Routes) : Prop :=
  ∀ reason route, routes.lookup reason = some route ↔ reason = route.reason

namespace Routes

/-- With exact routes, a reason that no virtualizer is registered for leads nowhere. -/
theorem Exact.lookup_eq_none {routes : Routes} (h : routes.Exact) {reason : Reason}
    (other : ∀ route, reason ≠ Route.reason route) : routes.lookup reason = none := by
  cases hr : routes.lookup reason with
  | none => rfl
  | some route => exact absurd ((h reason route).mp hr) (other route)

end Routes

namespace Vm

theorem routes_create_exact (m : Machine) : (create (σ := σ) m).1.routes.Exact := by
  intro reason route
  rw [lookup_create]
  cases route with
  | externalInterrupt =>
    by_cases h : reason = .externalInterrupt
    · simp [h, Route.reason, Interrupt.reason]
    · by_cases h' : reason = .controlRegisterAccesses <;>
        simp [h, h', Route.reason, Interrupt.reason]
  | controlRegister =>
    by_cases h : reason = .externalInterrupt
    · simp [h, Route.reason, ControlRegister.reason]
    · simp [h, Route.reason, ControlRegister.reason]

/-- **Whatever happens to a virtual CPU, its routes stay exact.** -/
theorem routes_after_exact [Inhabited σ] (m : Machine) (steps : List (Step σ)) :
    ((create m).1.after steps).routes.Exact := by
  rw [routes_after]
  exact routes_create_exact m

end Vm

namespace VmM

/-- With exact routes, an exit for the reason of a virtualizer is handled by it. -/
theorem handleExit_of_exact {vm : Vm σ} (h : vm.routes.Exact) (route : Route) :
    handleExit route.reason vm = handle route vm :=
  handleExit_of_routed ((h route.reason route).mpr rfl)

/--
**The router adds nothing.** In every state reached from the start the routes are exact.
An exit for a reason that no virtualizer is registered for is refused, and nothing is changed,
called, written or told. An exit for the reason of a virtualizer comes to what the
virtualizer in place answers on the machine, calls, does to it and becomes; it makes no
difference to the step whether it went through the router.
-/
theorem router_adds_nothing [Inhabited σ] (m : Machine) (steps : List (Step σ)) :
    let now := (Vm.create m).1.after steps
    now.routes.Exact
      ∧ now.routes.toList = [(.externalInterrupt, .externalInterrupt),
        (.controlRegisterAccesses, .controlRegister)]
      ∧ (∀ reason, (∀ route, reason ≠ Route.reason route) →
        handleExit reason now = ⟨.error .unroutedExit, now, [], []⟩)
      ∧ (let o := now.controlRegister.handle now.machine
        handleExit .controlRegisterAccesses now = ⟨o.value.result,
          { now with
            machine := now.machine.perform o.effects
            controlRegister := o.value.virtualizer },
          o.value.calls.map fun c => .access c.1 c.2, o.effects⟩)
      ∧ (let o := now.interrupt.handle now.machine
        handleExit .externalInterrupt now = ⟨o.value.result,
          { now with
            machine := now.machine.perform o.effects
            interrupt := o.value.virtualizer },
          o.value.calls.map .interrupt, o.effects⟩)
      ∧ ∀ route, step (.handleExit route.reason) now = step (.handle route) now := by
  intro now
  have exact : now.routes.Exact := Vm.routes_after_exact m steps
  have hroutes : now.routes = (Vm.create (σ := σ) m).1.routes := Vm.routes_after _ steps
  refine ⟨exact, ?_, fun reason other => ?_, ?_, ?_, fun route => ?_⟩
  · rw [hroutes]
    rfl
  · exact handleExit_of_unrouted (exact.lookup_eq_none other)
  · exact handleExit_of_exact exact .controlRegister
  · exact handleExit_of_exact exact .externalInterrupt
  -- both steps go on with the answer in the same way
  · have h := handleExit_of_exact exact route
    simp only [step, bind_apply, h]

/-- After a fatal exit that was caught and a replacement of both virtualizers: a halt of the guest
is refused, and a write of CR0 is put before the handlers of the new virtualizer, which has none. -/
theorem router_adds_nothing_after_replacements :
    let m : Machine := { vmcs := (({} : Vmcs).write .exitReason 28).write .exitQualification 0x5 }
    let steps : List (Step Script.Tally) :=
      [.addAccessHandler .writeCr0 (Script.accessHandler "grants" [] (.always true)), .exit,
        .replace .externalInterrupt, .replace .controlRegister,
        .assign [(.exitQualification, 0x300)] []]
    let now := (Vm.create m).1.after steps
    (∀ route, Reason.hlt ≠ Route.reason route)
      ∧ handleExit .hlt now = ⟨.error .unroutedExit, now, [], []⟩
      ∧ (handleExit .controlRegisterAccesses now).value
        = (now.controlRegister.handle now.machine).value.result
      ∧ (handleExit .controlRegisterAccesses now).calls = [] := by
  intro m steps now
  obtain ⟨-, -, hrefused, haccess, -, -⟩ := router_adds_nothing m steps
  have other : ∀ route, Reason.hlt ≠ Route.reason route := fun route => by cases route <;> decide
  refine ⟨other, hrefused .hlt other, ?_, by decide⟩
  dsimp only [now]
  rw [haccess]

end VmM

end GuestExit
