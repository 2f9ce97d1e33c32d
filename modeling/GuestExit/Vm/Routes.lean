import GuestExit.Log.Notice

/-!
# Routing exits

Which virtualizer serves which exit reason. Registering a route is told to the log,
and so is the route it replaces, if there was one; the later registration wins.
-/

namespace GuestExit

/-- The virtualizer each exit reason goes to, if any. -/
structure Routes where
  /-- Where exits for a reason go. -/
  lookup : Reason → Option Route := fun _ => none

namespace Routes

instance : Inhabited Routes := ⟨{}⟩

/-- Sends exits for `reason` to `route` from now on. -/
def register (routes : Routes) (reason : Reason) (route : Route) : Routes :=
  ⟨fun r => if r = reason then some route else routes.lookup r⟩

/-- What the log is told about a registration. -/
def announce (routes : Routes) (reason : Reason) (route : Route) : List Notice :=
  .routed reason route ::
    match routes.lookup reason with
    | some previous => [.rerouted reason previous route]
    | none => []

/-- All reasons that are routed, by ascending code, with where they go. -/
def toList (routes : Routes) : List (Reason × Route) :=
  Reason.all.filterMap fun reason => (routes.lookup reason).map (reason, ·)

@[simp] theorem lookup_empty (r : Reason) : ({} : Routes).lookup r = none := rfl

end Routes

end GuestExit
