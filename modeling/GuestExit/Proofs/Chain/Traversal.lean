import GuestExit.Chain.Dispatch

/-!
# How an exit goes down a chain

`dispatch` is a function that computes everything at once: the chain as it is
afterwards, the descriptor, the calls, the effects. `Traversal` is the same thing
said as rules. There are three, one for the end of the chain and two for a handler
that is asked: it claims, and nothing below it is touched, or it declines, and the
rest of the chain goes on from what it left.

Everything else here is read off a traversal by induction over its rules. The
facts that matter later are

* **who is called** (`Traversal.handlers`): the newest handlers, in order, each once;
* **on what** (`Traversal.handed`): every handler gets the machine and the
  descriptor exactly as the one called before it left them, declined or not;
* **with what result** (`Traversal.claimed_iff`, `Traversal.declined_iff`);
* **to what effect** (`Handed.left`): the machine is the one the last of them left;
* **what stays** (`Traversal.reverse_chain`): the handlers and their order, and the
  private state of every handler that was not called.
-/

namespace GuestExit

variable {σ ι : Type}

namespace Call

/-- The machine as the handler left it. -/
def left (c : Call σ ι) : Machine := c.machine.perform c.outcome.effects

/-- The descriptor as the handler left it. -/
def passed (c : Call σ ι) : ι := c.outcome.value.info

/-- Whether the handler claimed the exit. -/
def claims (c : Call σ ι) : Bool := c.outcome.value.claims

end Call

namespace Chain

/--
`Handed info m calls info' m'`: the first of the calls was given `info` on `m`,
every later one what the call before it left behind, and the last one left `info'`
on `m'`.
-/
inductive Handed : ι → Machine → List (Call σ ι) → ι → Machine → Prop where
  | none {info : ι} {m : Machine} : Handed info m [] info m
  | call {c : Call σ ι} {rest : List (Call σ ι)} {info' : ι} {m' : Machine} :
      Handed c.passed c.left rest info' m' → Handed c.info c.machine (c :: rest) info' m'

theorem Handed.left {info info' : ι} {m m' : Machine} {calls : List (Call σ ι)}
    (h : Handed info m calls info' m') : m' = (calls.getLast?.map Call.left).getD m := by
  induction h with
  | none => rfl
  | @call c rest info' m' _ ih =>
    rw [ih, List.getLast?_cons]
    cases rest.getLast? <;> rfl

/-- What an exit comes to, by the way it takes down the chain. -/
inductive Traversal : Chain σ ι → ι → Machine → Outcome (Dispatch σ ι) → Prop where
  /-- No handler is left to ask. -/
  | exhausted {info : ι} {m : Machine} : Traversal [] info m ⟨⟨[], info, false, []⟩, []⟩
  /-- The newest handler claims. -/
  | claimed {h : Handler σ ι} {rest : Chain σ ι} {info : ι} {m : Machine}
      {o : Outcome (Reaction σ ι)} :
      h.react h.state info m = o → o.value.claims = true →
      Traversal (h :: rest) info m
        ⟨⟨{ h with state := o.value.state } :: rest, o.value.info, true,
          [⟨rest.length, h.state, info, m, o⟩]⟩, o.effects⟩
  /-- The newest handler declines, and the others are asked. -/
  | declined {h : Handler σ ι} {rest : Chain σ ι} {info : ι} {m : Machine}
      {o : Outcome (Reaction σ ι)} {d : Outcome (Dispatch σ ι)} :
      h.react h.state info m = o → o.value.claims = false →
      Traversal rest o.value.info (m.perform o.effects) d →
      Traversal (h :: rest) info m
        ⟨⟨{ h with state := o.value.state } :: d.value.chain, d.value.info, d.value.claimed,
          ⟨rest.length, h.state, info, m, o⟩ :: d.value.calls⟩, o.effects ++ d.effects⟩

/-- **A dispatch is a traversal.** -/
theorem traversal (chain : Chain σ ι) (info : ι) (m : Machine) :
    Traversal chain info m (chain.dispatch info m) := by
  induction chain generalizing info m with
  | nil => exact .exhausted
  | cons h rest ih =>
    rw [dispatch_cons]
    dsimp only
    split
    · next hc => exact .claimed rfl hc
    · next hc => exact .declined rfl (by simpa using hc) (ih _ _)

/-- Some handler claims the exit, all newer ones having declined it. -/
inductive Claims : Chain σ ι → ι → Machine → Prop where
  /-- The newest handler claims. -/
  | newest {h : Handler σ ι} {rest : Chain σ ι} {info : ι} {m : Machine} :
      (h.react h.state info m).value.claims = true → Claims (h :: rest) info m
  /-- The newest handler declines, and one of the others claims what it passes on. -/
  | older {h : Handler σ ι} {rest : Chain σ ι} {info : ι} {m : Machine} :
      (h.react h.state info m).value.claims = false →
      Claims rest (h.react h.state info m).value.info ((h.react h.state info).final m) →
      Claims (h :: rest) info m

/-- The private state of handler number `i` after some calls, if it was `s` before them. -/
def latest (i : Nat) (s : σ) (calls : List (Call σ ι)) : σ :=
  calls.foldl (fun s c => if c.handler = i then c.outcome.value.state else s) s

@[simp] theorem latest_nil (i : Nat) (s : σ) : latest i s ([] : List (Call σ ι)) = s := rfl

theorem latest_cons (i : Nat) (s : σ) (c : Call σ ι) (calls : List (Call σ ι)) :
    latest i s (c :: calls)
      = latest i (if c.handler = i then c.outcome.value.state else s) calls := rfl

theorem latest_append (i : Nat) (s : σ) (a b : List (Call σ ι)) :
    latest i s (a ++ b) = latest i (latest i s a) b :=
  List.foldl_append

theorem latest_of_not_called {i : Nat} {calls : List (Call σ ι)}
    (h : ∀ c ∈ calls, c.handler ≠ i) (s : σ) : latest i s calls = s := by
  induction calls with
  | nil => rfl
  | cons c rest ih =>
    rw [latest_cons, if_neg (h c List.mem_cons_self)]
    exact ih fun c' hc' => h c' (List.mem_cons_of_mem _ hc')

/-- Handler number `i` of a chain with the state that some calls left it in. -/
def revisit (calls : List (Call σ ι)) (i : Nat) (h : Handler σ ι) : Handler σ ι :=
  { h with state := latest i h.state calls }

theorem revisit_append (a b : List (Call σ ι)) (i : Nat) (h : Handler σ ι) :
    revisit (a ++ b) i h = revisit b i (revisit a i h) := by
  simp [revisit, latest_append]

theorem revisit_of_not_called {i : Nat} {calls : List (Call σ ι)}
    (hc : ∀ c ∈ calls, c.handler ≠ i) (h : Handler σ ι) : revisit calls i h = h := by
  unfold revisit
  rw [latest_of_not_called hc]

namespace Traversal

variable {chain : Chain σ ι} {info : ι} {m : Machine} {d : Outcome (Dispatch σ ι)}

/-- **The handlers called are the newest ones, newest first**, each of them once. -/
theorem handlers (t : Traversal chain info m d) :
    d.value.calls.map (·.handler)
      = (List.range chain.length).reverse.take d.value.calls.length := by
  induction t with
  | exhausted => rfl
  | claimed _ _ => simp [List.range_succ]
  | declined _ _ _ ih => simp [List.range_succ, ih]

theorem handler_lt (t : Traversal chain info m d) {c : Call σ ι} (hc : c ∈ d.value.calls) :
    c.handler < chain.length := by
  have hmem : c.handler ∈ d.value.calls.map (·.handler) := List.mem_map_of_mem hc
  rw [t.handlers] at hmem
  simpa using List.mem_of_mem_take hmem

/-- A handler reacts in the state it was in, and it is the handler with the number of the call. -/
theorem reacted (t : Traversal chain info m d) {c : Call σ ι} (hc : c ∈ d.value.calls) :
    ∃ h, chain.reverse[c.handler]? = some h ∧ c.state = h.state
      ∧ c.outcome = h.react h.state c.info c.machine := by
  induction t with
  | exhausted => simp at hc
  | claimed hr _ =>
    rw [List.mem_singleton] at hc
    subst hc
    exact ⟨_, by simp, rfl, hr.symm⟩
  | declined hr _ below ih =>
    rcases List.mem_cons.mp hc with rfl | hc'
    · exact ⟨_, by simp, rfl, hr.symm⟩
    -- an older handler has the same number in the whole chain as in the rest of it
    · obtain ⟨h, hget, hstate, hout⟩ := ih hc'
      have hlt := below.handler_lt hc'
      refine ⟨h, ?_, hstate, hout⟩
      rw [List.reverse_cons, List.getElem?_append_left (by simpa using hlt)]
      exact hget

/-- **Every handler sees what the one before it left**, and the last one leaves what the dispatch
leaves. -/
theorem handed (t : Traversal chain info m d) :
    Handed info m d.value.calls d.value.info (m.perform d.effects) := by
  induction t with
  | exhausted => exact .none
  | @claimed h rest info m o _ _ =>
    exact Handed.call (c := ⟨rest.length, h.state, info, m, o⟩) .none
  | @declined h rest info m o d _ _ _ ih =>
    rw [Machine.perform_append]
    exact Handed.call (c := ⟨rest.length, h.state, info, m, o⟩) ih

theorem dropLast_declines (t : Traversal chain info m d) :
    ∀ c ∈ d.value.calls.dropLast, c.claims = false := by
  induction t with
  | exhausted => simp
  | claimed _ _ => simp
  | @declined h rest info m o d _ hc below ih =>
    intro c hmem
    rcases hd : d.value.calls with _ | ⟨c₁, rest₁⟩
    · simp [hd] at hmem
    · rw [hd, List.dropLast_cons_cons, ← hd] at hmem
      rcases List.mem_cons.mp hmem with rfl | h'
      · exact hc
      · exact ih c h'

/-- **The result is a claim exactly if a handler called claimed.** -/
theorem claimed_iff (t : Traversal chain info m d) :
    d.value.claimed = true ↔ ∃ c ∈ d.value.calls, c.claims = true := by
  induction t with
  | exhausted => simp
  | claimed _ hc => simpa [Call.claims] using hc
  | declined _ hc _ ih => simp [Call.claims, hc, ih]

/-- **The result is a refusal exactly if all handlers were called and all declined.** -/
theorem declined_iff (t : Traversal chain info m d) :
    d.value.claimed = false
      ↔ d.value.calls.length = chain.length ∧ ∀ c ∈ d.value.calls, c.claims = false := by
  induction t with
  | exhausted => simp
  | claimed _ hc => simp [Call.claims, hc]
  | declined _ hc _ ih => simp [Call.claims, hc, ih]

theorem claimed_iff_claims (t : Traversal chain info m d) :
    d.value.claimed = true ↔ Claims chain info m := by
  induction t with
  | exhausted => exact ⟨fun h => absurd h (by simp), fun h => nomatch h⟩
  | claimed hr hc =>
    subst hr
    exact ⟨fun _ => .newest hc, fun _ => rfl⟩
  | declined hr hc _ ih =>
    subst hr
    refine ⟨fun h => .older hc (ih.mp h), fun h => ?_⟩
    cases h with
    | newest hn => rw [hc] at hn; exact absurd hn (by simp)
    | older _ ho => exact ih.mpr ho

/-- **The handlers and their order stay**, and each has the state its own call left it in. -/
theorem reverse_chain (t : Traversal chain info m d) :
    d.value.chain.reverse = chain.reverse.mapIdx (revisit d.value.calls) := by
  induction t with
  | exhausted => rfl
  | @claimed h rest info m o _ _ =>
    simp only [List.reverse_cons, List.mapIdx_append]
    congr 1
    -- no call has the number of an older handler
    · symm
      refine List.ext_getElem (by simp) fun i h₁ h₂ => ?_
      rw [List.getElem_mapIdx]
      have hi : i < rest.length := by simpa using h₂
      exact revisit_of_not_called (by simp; omega) _
    · simp [revisit, latest_cons]
  | @declined h rest info m o d _ _ below ih =>
    simp only [List.reverse_cons, List.mapIdx_append]
    congr 1
    -- the call of the newest handler has a number that no older one has
    · rw [ih]
      refine List.ext_getElem (by simp) fun i h₁ h₂ => ?_
      have hi : i < rest.length := by simpa using h₂
      have hne : ¬ rest.length = i := by omega
      simp only [List.getElem_mapIdx, revisit, latest_cons, if_neg hne]
    · have hbelow : ∀ c ∈ d.value.calls, c.handler ≠ rest.length := fun c hc =>
        Nat.ne_of_lt (below.handler_lt hc)
      simp [revisit, latest_cons, latest_of_not_called hbelow]

end Traversal

end Chain

end GuestExit
