import GuestExit.Proofs.Vm.Frame

/-!
# Routes never change

The routes of a virtual CPU are laid when it is brought up, and nothing in its life
touches them again: not an exit, fatal or not, and not even a virtualizer that is
put in place of another, which is registered with routes of its own. So in every
state that can be reached, two reasons are served and all others are not.
-/

namespace GuestExit

variable {σ : Type}

namespace VmM

theorem keeps_routes_handle (route : Route) : Keeps (Vm.routes (σ := σ)) (handle route) := by
  intro vm
  cases route <;> rfl

/-- **No step changes the routes.** -/
theorem keeps_routes_step [Inhabited σ] (s : Step σ) : Keeps Vm.routes (step s) := by
  have hP := compositional_keeps (Vm.routes (σ := σ))
  cases s with
  | handleExit reason => exact (hP.handleExit keeps_routes_handle reason).answer _
  | handle which => exact (keeps_routes_handle which).answer _
  | resolve => exact (hP.resolve keeps_routes_handle).answer _
  | exit => exact (keeps_exit keeps_routes_handle fun _ => rfl).answer _
  | setLogging which on => cases which <;> exact fun _ => rfl
  | dump which => cases which <;> exact fun _ => rfl
  -- a new virtualizer is registered with routes that are not those of the virtual CPU
  | replace which => cases which <;> exact fun _ => rfl
  | _ => exact fun _ => rfl

end VmM

namespace Vm

/-- **A run leaves the routes as it found them.** -/
theorem routes_after [Inhabited σ] (vm : Vm σ) (steps : List (Step σ)) :
    (vm.after steps).routes = vm.routes := by
  induction steps generalizing vm with
  | nil => rfl
  | cons s rest ih =>
    rw [after_cons, ih]
    exact VmM.keeps_routes_step s vm

/-- The routes laid at the start: each virtualizer serves its own reason. -/
theorem lookup_create (m : Machine) (r : Reason) :
    (create (σ := σ) m).1.routes.lookup r
      = if r = .externalInterrupt then some .externalInterrupt
        else if r = .controlRegisterAccesses then some .controlRegister else none := rfl

/-- The virtualizer for an exit reason, by the number of the reason: 1 is an external interrupt and
28 a control register access. No other number is served. -/
def serving : Nat → Option Route
  | 1 => some .externalInterrupt
  | 28 => some .controlRegister
  | _ => none

end Vm

end GuestExit
