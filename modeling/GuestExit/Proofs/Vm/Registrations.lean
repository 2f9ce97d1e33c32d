import Mathlib.Data.Finset.Card
import GuestExit.Proofs.Vm.Router

/-!
# What routes remember

A table of routes is only ever changed by registrations. A reason can be registered directly, and a
virtualizer that is constructed on the table registers itself, so it takes over a reason that went
elsewhere before. Routes do not remember all of that: of all registrations for a reason the last one
counts (`lookup_after`). The others are in the log. Each registration that replaces a route leaves a
warning there, which names the route as it was just before, and the first registration for a reason
leaves none (`warnings_snoc`).
-/

namespace GuestExit

/-- Something that changes routes. -/
inductive Registration where
  /-- A reason is routed. -/
  | direct (reason : Reason) (route : Route)
  /-- A virtualizer is constructed, and routes the reason that it serves to itself. -/
  | construct (route : Route)
  deriving DecidableEq, Repr

namespace Registration

/-- The reason that is routed. -/
def reason : Registration → Reason
  | direct reason _ => reason
  | construct route => route.reason

/-- Where it is routed to. -/
def route : Registration → Route
  | direct _ route => route
  | construct route => route

/-- Where the last registration for a reason sends it, if there was one. -/
def latest (r : Reason) (history : List Registration) : Option Route :=
  (history.filter fun e => e.reason = r).getLast?.map route

theorem latest_snoc (history : List Registration) (e : Registration) (r : Reason) :
    latest r (history ++ [e]) = if r = e.reason then some e.route else latest r history := by
  unfold latest
  by_cases h : e.reason = r
  · simp [h]
  · simp [h, Ne.symm h]

/-- Nothing was last exactly if there was nothing. -/
theorem latest_eq_none_iff {r : Reason} {history : List Registration} :
    latest r history = none ↔ r ∉ history.map reason := by
  unfold latest
  simp

/-- The warning about a registration, by where its reason went before. -/
def warning (e : Registration) : Option Route → List Notice
  | some previous => [.rerouted e.reason previous e.route]
  | none => []

end Registration

open Registration (latest)

namespace Routes

/-! ## Histories -/

/-- The routes after a registration. -/
def apply (routes : Routes) : Registration → Routes
  | .direct reason route => routes.register reason route
  | .construct route => (routes.construct route).routes

/-- What the log is told about a registration. -/
def announced (routes : Routes) : Registration → List Notice
  | .direct reason route => routes.announce reason route
  | .construct route => (routes.construct route).told

theorem apply_eq_register (routes : Routes) (e : Registration) :
    routes.apply e = routes.register e.reason e.route := by
  cases e <;> rfl

theorem announced_eq (routes : Routes) (e : Registration) :
    routes.announced e
      = .routed e.reason e.route :: e.warning (routes.lookup e.reason) := by
  cases e <;> rfl

/-- The routes after a list of registrations. -/
def after (routes : Routes) (history : List Registration) : Routes :=
  history.foldl apply routes

/-- What the log is told over a list of registrations, in order. -/
def told (routes : Routes) : List Registration → List Notice
  | [] => []
  | e :: rest => routes.announced e ++ told (routes.apply e) rest

theorem told_append (routes : Routes) (a b : List Registration) :
    routes.told (a ++ b) = routes.told a ++ (routes.after a).told b := by
  induction a generalizing routes with
  | nil => rfl
  | cons e rest ih =>
    rw [List.cons_append, told, told, ih, List.append_assoc]
    rfl

/-- The warnings among what the log is told. -/
def warnings (notices : List Notice) : List Notice :=
  notices.filter fun n => n.level = .warn

theorem after_snoc (routes : Routes) (history : List Registration) (e : Registration) :
    routes.after (history ++ [e]) = (routes.after history).apply e :=
  List.foldl_append

/-- **The last registration for a reason counts.** -/
theorem lookup_after (history : List Registration) (r : Reason) :
    (after {} history).lookup r = latest r history := by
  induction history using List.reverseRecOn with
  | nil => rfl
  | append_singleton history e ih =>
    rw [after_snoc, apply_eq_register, Registration.latest_snoc, ← ih]
    rfl

/-- What the log is told about one more registration. -/
theorem told_snoc (history : List Registration) (e : Registration) :
    told {} (history ++ [e]) = told {} history
      ++ .routed e.reason e.route :: e.warning (latest e.reason history) := by
  rw [told_append, told, told, List.append_nil, announced_eq, lookup_after]

/-- **A registration leaves a warning exactly if its reason was routed before.** -/
theorem warnings_snoc (history : List Registration) (e : Registration) :
    warnings (told {} (history ++ [e]))
      = warnings (told {} history) ++ e.warning (latest e.reason history) := by
  unfold warnings
  rw [told_snoc, List.filter_append]
  cases latest e.reason history <;> rfl

/-- There are as many registrations without a warning as there are reasons. -/
theorem length_warnings (history : List Registration) :
    (warnings (told {} history)).length + (history.map Registration.reason).toFinset.card
      = history.length := by
  induction history using List.reverseRecOn with
  | nil => rfl
  | append_singleton history e ih =>
    have hreasons : ((history ++ [e]).map Registration.reason).toFinset
        = insert e.reason (history.map Registration.reason).toFinset := by
      ext r
      simp
    rw [hreasons, warnings_snoc, List.length_append, List.length_append, List.length_singleton]
    by_cases hseen : e.reason ∈ history.map Registration.reason
    · have hwarning : (e.warning (latest e.reason history)).length = 1 := by
        cases hlatest : latest e.reason history with
        | none => exact absurd hseen (Registration.latest_eq_none_iff.mp hlatest)
        | some previous => rfl
      rw [hwarning, Finset.insert_eq_of_mem (List.mem_toFinset.mpr hseen)]
      omega
    · have hwarning : (e.warning (latest e.reason history)).length = 0 := by
        rw [Registration.latest_eq_none_iff.mpr hseen]
        rfl
      rw [hwarning, Finset.card_insert_of_notMem (mt List.mem_toFinset.mp hseen)]
      omega

/-! ## Listing -/

theorem mem_toList {routes : Routes} {r : Reason} {route : Route} :
    (r, route) ∈ routes.toList ↔ routes.lookup r = some route := by
  unfold toList
  rw [List.mem_filterMap]
  constructor
  · rintro ⟨q, -, h⟩
    obtain ⟨found, hfound, heq⟩ := Option.map_eq_some_iff.mp h
    obtain ⟨rfl, rfl⟩ := Prod.mk.inj heq
    exact hfound
  · exact fun h => ⟨r, r.mem_all, by rw [h]; rfl⟩

/-- Routes are listed by ascending code, so none is listed twice. -/
theorem pairwise_toList (routes : Routes) :
    routes.toList.Pairwise fun p q => p.1.code < q.1.code := by
  have hall : Reason.all.Pairwise fun r q => r.code < q.code := by decide
  refine hall.filterMap _ fun r q hlt p hp p' hp' => ?_
  obtain ⟨-, -, rfl⟩ := Option.map_eq_some_iff.mp hp
  obtain ⟨-, -, rfl⟩ := Option.map_eq_some_iff.mp hp'
  exact hlt

end Routes

/--
**Routes follow their history.** After any registrations, direct or by the construction of a
virtualizer, a reason goes where the last registration for it sent it, and nowhere if there was
none. The listing holds the reasons that go somewhere, by strictly ascending code. Each registration
is told, and one whose reason was routed before, be it to the same virtualizer, leaves a warning
about the route that was in force until then; so there are as many warnings as there are
registrations beyond the first for each reason. To bring up a virtual CPU is to construct the two
virtualizers, on no routes.
-/
theorem routes_follow_their_history {σ : Type} (history : List Registration) :
    (∀ r, (Routes.after {} history).lookup r = latest r history)
      ∧ (∀ r route, (r, route) ∈ (Routes.after {} history).toList
        ↔ latest r history = some route)
      ∧ ((Routes.after {} history).toList.Pairwise fun p q => p.1.code < q.1.code)
      ∧ (∀ e, Routes.told {} (history ++ [e]) = Routes.told {} history
        ++ .routed e.reason e.route :: e.warning (latest e.reason history))
      ∧ (∀ e, Routes.warnings (Routes.told {} (history ++ [e]))
        = Routes.warnings (Routes.told {} history) ++ e.warning (latest e.reason history))
      ∧ (Routes.warnings (Routes.told {} history)).length
        + (history.map Registration.reason).toFinset.card = history.length
      ∧ ∀ m : Machine, ((Vm.create (σ := σ) m).1.routes, (Vm.create (σ := σ) m).2)
        = (Routes.after {} [.construct .controlRegister, .construct .externalInterrupt],
          Routes.told {} [.construct .controlRegister, .construct .externalInterrupt]) := by
  refine ⟨Routes.lookup_after history, fun r route => ?_, Routes.pairwise_toList _,
    Routes.told_snoc history, Routes.warnings_snoc history, Routes.length_warnings history,
    fun _ => rfl⟩
  rw [Routes.mem_toList, Routes.lookup_after]

/-- A virtualizer that is constructed takes over what went to the other one. -/
example :
    Routes.told {} [.direct .externalInterrupt .controlRegister, .construct .externalInterrupt] = [
      .routed .externalInterrupt .controlRegister, .routed .externalInterrupt .externalInterrupt,
      .rerouted .externalInterrupt .controlRegister .externalInterrupt] := rfl

end GuestExit
