import GuestExit.Proofs.Chain.Traversal

/-!
# Chains in layers

Handlers registered later are asked first. So a chain is a layer of newer handlers on
top of a layer of older ones, wherever it is cut, and an exit reaches the older layer
only if the newer one declines it (`dispatch_append`). Two kinds of handlers make for
layers that are easily described. A bystander declines everything and changes nothing,
so a chain does under it what it did before (`dispatch_bystander`). A handler that
claims everything hides all that is below it, which `Proofs/Interrupt/Reinjection`
makes use of.

A handler keeps its number when others come and go above it, but in a dispatch of the
newer layer alone the numbers start at the bottom of that layer. `Call.raise` accounts
for the difference.
-/

namespace GuestExit

variable {σ ι γ : Type}

/-- The same call, with `n` handlers more below the one that was called. -/
def Call.raise (n : Nat) (c : Call σ ι) : Call σ ι := { c with handler := c.handler + n }

namespace Chain

/-- **The newer layer goes first**, and the older one takes over what the newer one passes on. -/
theorem dispatch_append (newer older : Chain σ ι) (info : ι) (m : Machine) :
    dispatch (newer ++ older) info m =
      let d := newer.dispatch info m
      let e := older.dispatch d.value.info (m.perform d.effects)
      if d.value.claimed then
        ⟨⟨d.value.chain ++ older, d.value.info, true, d.value.calls.map (.raise older.length)⟩,
          d.effects⟩
      else
        ⟨⟨d.value.chain ++ e.value.chain, e.value.info, e.value.claimed,
            d.value.calls.map (.raise older.length) ++ e.value.calls⟩,
          d.effects ++ e.effects⟩ := by
  induction newer generalizing info m with
  | nil => rfl
  | cons h rest ih =>
    rw [List.cons_append, dispatch_cons, dispatch_cons]
    dsimp only
    cases hc : (h.react h.state info m).value.claims with
    | true => simp [Call.raise]
    | false =>
      simp only [Bool.false_eq_true, if_false]
      rw [ih]
      dsimp only
      -- whether the rest of the layer claims decides for the whole of it
      split <;> simp [Call.raise]

/-- What is true of how all handlers react is true wherever handlers react the same. -/
theorem forall_of_react {P : (σ → ι → ExitM (Reaction σ ι)) → Prop} {chain chain' : Chain σ ι}
    (hreact : chain'.map (·.react) = chain.map (·.react)) (h : ∀ handler ∈ chain, P handler.react) :
    ∀ handler ∈ chain', P handler.react := by
  intro handler hmem
  have hmem' : handler.react ∈ chain.map (·.react) := by
    rw [← hreact]
    exact List.mem_map_of_mem hmem
  obtain ⟨old, hold, e⟩ := List.mem_map.mp hmem'
  rw [← e]
  exact h old hold

/-- A dispatch changes the states of handlers, not what they do. -/
theorem react_dispatch (chain : Chain σ ι) (info : ι) (m : Machine) :
    (chain.dispatch info m).value.chain.map (·.react) = chain.map (·.react) := by
  induction chain generalizing info m with
  | nil => rfl
  | cons h rest ih =>
    rw [dispatch_cons]
    dsimp only
    split
    · rfl
    · rw [List.map_cons, List.map_cons, ih]

/-- What every handler called leaves alone is left alone by all of them together. -/
theorem Handed.keeps {info info' : ι} {m m' : Machine} {calls : List (Call σ ι)}
    (h : Handed info m calls info' m') (f : ι → γ) (kept : ∀ c ∈ calls, f c.passed = f c.info) :
    f info' = f info := by
  induction h with
  | none => rfl
  | @call c rest info' m' _ ih =>
    rw [ih fun c' hc' => kept c' (List.mem_cons_of_mem c hc')]
    exact kept c List.mem_cons_self

end Chain

/-! ## Bystanders -/

/-- A handler that declines every exit, passes the descriptor on as it is and leaves the machine as
it was. It may tell the log something and keep a state of its own. -/
structure Handler.Bystander (h : Handler σ ι) : Prop where
  declines : ∀ s info m, (h.react s info m).value.claims = false
  passes : ∀ s info m, (h.react s info m).value.info = info
  leaves : ∀ s info m, (h.react s info).final m = m

namespace Handler

/-- A bystander is one in every state. -/
theorem Bystander.withState {h : Handler σ ι} (b : h.Bystander) (s : σ) :
    Bystander { h with state := s } :=
  ⟨b.declines, b.passes, b.leaves⟩

end Handler

namespace Chain

/-- **An exit goes past a bystander** to the handlers below, as it came. -/
theorem dispatch_bystander {h : Handler σ ι} (b : h.Bystander) (chain : Chain σ ι) (info : ι)
    (m : Machine) :
    let o := h.react h.state info m
    let d := (chain.register h).dispatch info m
    let below := chain.dispatch info m
    d.value.claimed = below.value.claimed ∧ d.value.info = below.value.info
      ∧ m.perform d.effects = m.perform below.effects
      ∧ d.value.chain = below.value.chain.register { h with state := o.value.state } := by
  have hleft : m.perform (h.react h.state info m).effects = m := b.leaves h.state info m
  dsimp only
  unfold register
  rw [dispatch_cons]
  dsimp only
  rw [b.declines, b.passes, hleft]
  refine ⟨rfl, rfl, ?_, rfl⟩
  simp [hleft]

end Chain

end GuestExit
