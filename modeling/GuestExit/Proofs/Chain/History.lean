import GuestExit.Proofs.Chain.Traversal

/-!
# The life of a chain

Handlers are registered and exits are dispatched, in any order, over the whole life
of a chain. What a dispatch does then depends on everything before it: on the
handlers registered so far, and on the private states that the earlier dispatches
left them in.

The invariant is `Remembers`: read from the oldest handler on, the chain *is* the
list of registrations, each handler in the state that the latest call to it left it
in. It says nothing of the order of registrations and dispatches, which is why it
survives any interleaving of the two. `dispatch_protocol` spells out what it means
for a single dispatch at any point of such a life.
-/

namespace GuestExit

namespace Chain

variable {σ ι : Type}

/-- Something done with a chain. -/
inductive Op (σ ι : Type) where
  /-- A handler is registered. -/
  | register (handler : Handler σ ι)
  /-- An exit is sent down the chain, on any machine and with any descriptor. -/
  | dispatch (info : ι) (machine : Machine)

/-- The chain after something was done with it. -/
def apply (chain : Chain σ ι) : Op σ ι → Chain σ ι
  | .register handler => chain.register handler
  | .dispatch info m => (chain.dispatch info m).value.chain

/-- The handlers called when something is done with a chain. -/
def calls (chain : Chain σ ι) : Op σ ι → List (Call σ ι)
  | .register _ => []
  | .dispatch info m => (chain.dispatch info m).value.calls

/-- The chain that a list of operations leaves. -/
def after (chain : Chain σ ι) (ops : List (Op σ ι)) : Chain σ ι :=
  ops.foldl apply chain

/-- All handlers called over a list of operations, in order. -/
def history (chain : Chain σ ι) : List (Op σ ι) → List (Call σ ι)
  | [] => []
  | op :: rest => chain.calls op ++ history (chain.apply op) rest

/-- The handlers registered by a list of operations, the oldest first. -/
def registered (ops : List (Op σ ι)) : List (Handler σ ι) :=
  ops.filterMap fun
    | .register handler => some handler
    | .dispatch .. => none

theorem registered_append (a b : List (Op σ ι)) :
    registered (a ++ b) = registered a ++ registered b :=
  List.filterMap_append

/-! ## The invariant -/

/-- A chain that has seen the given registrations and calls. -/
structure Remembers (handlers : List (Handler σ ι)) (past : List (Call σ ι))
    (chain : Chain σ ι) : Prop where
  /-- The handlers stand in the order of their registration, each in its latest state. -/
  order : chain.reverse = handlers.mapIdx (revisit past)
  /-- Nothing was called that was not registered. -/
  known : ∀ c ∈ past, c.handler < handlers.length

theorem Remembers.length {handlers : List (Handler σ ι)} {past : List (Call σ ι)}
    {chain : Chain σ ι} (r : Remembers handlers past chain) :
    chain.length = handlers.length := by
  have h := congrArg List.length r.order
  simpa using h

theorem remembers_nil : Remembers ([] : List (Handler σ ι)) [] [] :=
  ⟨rfl, by simp⟩

/-- A new handler gets the next number, under which nothing was ever called. -/
theorem Remembers.register {handlers : List (Handler σ ι)} {past : List (Call σ ι)}
    {chain : Chain σ ι} (r : Remembers handlers past chain) (h : Handler σ ι) :
    Remembers (handlers ++ [h]) past (chain.register h) := by
  have hnew : ∀ c ∈ past, c.handler ≠ handlers.length := fun c hc =>
    Nat.ne_of_lt (r.known c hc)
  refine ⟨?_, fun c hc => ?_⟩
  · show (h :: chain).reverse = _
    rw [List.reverse_cons, r.order, List.mapIdx_append]
    simp [revisit_of_not_called hnew]
  · have hlt := r.known c hc
    rw [List.length_append]
    omega

theorem Remembers.dispatch {handlers : List (Handler σ ι)} {past : List (Call σ ι)}
    {chain : Chain σ ι} (r : Remembers handlers past chain) (info : ι) (m : Machine) :
    Remembers handlers (past ++ (chain.dispatch info m).value.calls)
      (chain.dispatch info m).value.chain := by
  have t := traversal chain info m
  refine ⟨?_, fun c hc => ?_⟩
  · rw [t.reverse_chain, r.order, List.mapIdx_mapIdx]
    congr 1
    funext i h
    exact (revisit_append past _ i h).symm
  · rcases List.mem_append.mp hc with hc' | hc'
    · exact r.known c hc'
    · have hlt := t.handler_lt hc'
      rw [r.length] at hlt
      exact hlt

/-- **Every operation keeps the invariant.** -/
theorem Remembers.apply {handlers : List (Handler σ ι)} {past : List (Call σ ι)}
    {chain : Chain σ ι} (r : Remembers handlers past chain) (op : Op σ ι) :
    Remembers (handlers ++ registered [op]) (past ++ chain.calls op) (chain.apply op) := by
  cases op with
  | register h =>
    show Remembers (handlers ++ [h]) (past ++ []) (chain.register h)
    rw [List.append_nil]
    exact r.register h
  | dispatch info m =>
    show Remembers (handlers ++ []) (past ++ _) _
    rw [List.append_nil]
    exact r.dispatch info m

theorem Remembers.after {handlers : List (Handler σ ι)} {past : List (Call σ ι)}
    {chain : Chain σ ι} (r : Remembers handlers past chain) (ops : List (Op σ ι)) :
    Remembers (handlers ++ registered ops) (past ++ chain.history ops) (chain.after ops) := by
  induction ops generalizing handlers past chain with
  | nil =>
    show Remembers (handlers ++ []) (past ++ []) chain
    rw [List.append_nil, List.append_nil]
    exact r
  | cons op rest ih =>
    have h := ih (r.apply op)
    rw [List.append_assoc, List.append_assoc, ← registered_append] at h
    exact h

/-- **The invariant holds of every chain that was empty once.** -/
theorem remembers_after (ops : List (Op σ ι)) :
    Remembers (registered ops) (history [] ops) (Chain.after [] ops) :=
  remembers_nil.after ops

/-! ## The protocol -/

/--
What a dispatch may do, given the handlers registered before it, the calls made
before it and the chain it finds.
-/
structure Protocol (handlers : List (Handler σ ι)) (past : List (Call σ ι)) (chain : Chain σ ι)
    (info : ι) (m : Machine) (d : Outcome (Dispatch σ ι)) : Prop where
  /-- The chain is as long as there were registrations. -/
  length : chain.length = handlers.length
  /-- It is empty exactly if there were none. -/
  isEmpty : chain.isEmpty = true ↔ handlers.length = 0
  /-- The handlers called are the newest ones, newest first. -/
  order : d.value.calls.map (·.handler)
    = (List.range handlers.length).reverse.take d.value.calls.length
  /-- None is called twice. -/
  once : (d.value.calls.map (·.handler)).Nodup
  /-- Each reacts in the state that the latest call to it left it in, or in that of its
  registration if it was never called. -/
  reacted : ∀ c ∈ d.value.calls, ∃ h, handlers[c.handler]? = some h
    ∧ c.state = latest c.handler h.state past ∧ c.outcome = h.react c.state c.info c.machine
  /-- The first sees the exit as it came, each other one what the one before it left, and what the
  last one leaves is what the dispatch leaves. -/
  handed : Handed info m d.value.calls d.value.info (m.perform d.effects)
  /-- The dispatch does to the machine what the handlers called do, and nothing else. -/
  effects : d.effects = d.value.calls.flatMap fun c => c.outcome.effects
  /-- It stops right behind the first handler that claims. -/
  stops : ∀ c ∈ d.value.calls.dropLast, c.claims = false
  /-- The exit is claimed exactly if a handler called claimed. -/
  claimed : d.value.claimed = true ↔ ∃ c ∈ d.value.calls, c.claims = true
  /-- It is declined exactly if all handlers were called and all declined. -/
  declined : d.value.claimed = false
    ↔ d.value.calls.length = handlers.length ∧ ∀ c ∈ d.value.calls, c.claims = false
  /-- Afterwards the chain holds the same handlers in the same order. -/
  kept : d.value.chain.reverse
    = handlers.mapIdx fun i h => { h with state := latest i h.state (past ++ d.value.calls) }
  /-- A handler that was not called is exactly what it was. -/
  untouched : ∀ i, i ∉ d.value.calls.map (·.handler) →
    d.value.chain.reverse[i]? = chain.reverse[i]?

/-- **Every dispatch keeps to the protocol**, after any registrations and dispatches. -/
theorem dispatch_protocol (ops : List (Op σ ι)) (info : ι) (m : Machine) :
    Protocol (registered ops) (history [] ops) (after [] ops) info m
      ((after [] ops).dispatch info m) := by
  have r := remembers_after ops
  have t := traversal (after [] ops) info m
  have hlen := r.length
  have horder := t.handlers
  rw [hlen] at horder
  refine
    { length := hlen
      isEmpty := ?_
      order := horder
      once := ?_
      reacted := ?_
      handed := t.handed
      effects := effects_dispatch _ _ _
      stops := t.dropLast_declines
      claimed := t.claimed_iff
      declined := hlen ▸ t.declined_iff
      kept := (r.dispatch info m).order
      untouched := ?_ }
  · rw [List.isEmpty_iff_length_eq_zero, hlen]
  -- the numbers called are distinct since those they are taken from are
  · rw [horder]
    have hnd := (List.reverse_perm (List.range (registered ops).length)).nodup_iff.mpr
      List.nodup_range
    exact hnd.sublist (List.take_sublist _ _)
  -- the chain holds each handler in its latest state, and the call finds it there
  · intro c hc
    obtain ⟨h, hget, hstate, hout⟩ := t.reacted hc
    rw [r.order, List.getElem?_mapIdx] at hget
    obtain ⟨h₀, hget₀, rfl⟩ := Option.map_eq_some_iff.mp hget
    exact ⟨h₀, hget₀, hstate, by rw [hout, hstate]; rfl⟩
  · intro i hi
    rw [t.reverse_chain, List.getElem?_mapIdx]
    have hne : ∀ c ∈ ((after [] ops).dispatch info m).value.calls, c.handler ≠ i := fun c hc he =>
      hi (he ▸ List.mem_map_of_mem hc)
    rw [show revisit _ i = id from funext (revisit_of_not_called hne), Option.map_id]
    rfl

end Chain

end GuestExit
