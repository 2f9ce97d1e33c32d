import GuestExit.Proofs.Chain.Layers

/-!
# What a chain does not show

The order in which handlers are asked makes some of them invisible. Below a handler that claims
every exit there might as well be nothing: no exit gets there, so what those handlers are does not
matter, and they stay as they are (`dispatch_conclusive`). And a bystander might as well not be
there itself, wherever in a chain it stands, but for being asked (`dispatch_around_bystander`).
-/

namespace GuestExit

variable {σ ι : Type}

/-- A handler that claims every exit. -/
def Handler.ClaimsAll (h : Handler σ ι) : Prop :=
  ∀ s info m, (h.react s info m).value.claims = true

namespace Chain

/-- A layer that no exit gets through: one of its handlers claims every exit. -/
def Conclusive (newer : Chain σ ι) : Prop :=
  ∃ h ∈ newer, h.ClaimsAll

theorem Conclusive.claimed {newer : Chain σ ι} (h : newer.Conclusive) (info : ι) (m : Machine) :
    (newer.dispatch info m).value.claimed = true := by
  obtain ⟨claimer, hmem, hclaims⟩ := h
  induction newer generalizing info m with
  | nil => exact absurd hmem List.not_mem_nil
  | cons h rest ih =>
    rw [dispatch_cons]
    dsimp only
    split
    · rfl
    · next hdeclines =>
      rcases List.mem_cons.mp hmem with rfl | hrest
      · exact absurd (hclaims _ _ _) hdeclines
      · exact ih _ _ hrest

/-- It stays so whatever exits go down. -/
theorem Conclusive.dispatch {newer : Chain σ ι} (h : newer.Conclusive) (info : ι) (m : Machine) :
    (newer.dispatch info m).value.chain.Conclusive := by
  obtain ⟨claimer, hmem, hclaims⟩ := h
  have hreact : claimer.react ∈ (newer.dispatch info m).value.chain.map (·.react) := by
    rw [react_dispatch]
    exact List.mem_map_of_mem hmem
  obtain ⟨h', hmem', e⟩ := List.mem_map.mp hreact
  refine ⟨h', hmem', fun s info m => ?_⟩
  rw [e]
  exact hclaims s info m

theorem Conclusive.register {newer : Chain σ ι} (h : newer.Conclusive) (handler : Handler σ ι) :
    (newer.register handler).Conclusive := by
  obtain ⟨claimer, hmem, hclaims⟩ := h
  exact ⟨claimer, List.mem_cons_of_mem handler hmem, hclaims⟩

/-- **Nothing below a conclusive layer is asked.** -/
theorem dispatch_conclusive {newer : Chain σ ι} (h : newer.Conclusive) (older : Chain σ ι) (info : ι)
    (m : Machine) :
    dispatch (newer ++ older) info m =
      let d := newer.dispatch info m
      ⟨⟨d.value.chain ++ older, d.value.info, true, d.value.calls.map (.raise older.length)⟩,
        d.effects⟩ := by
  rw [dispatch_append]
  dsimp only
  rw [if_pos (h.claimed info m)]

/-- **A bystander is asked, and makes no difference**: the handlers around it are asked as if it
were not there. Its own call, and all that it does, comes between theirs. -/
theorem dispatch_around_bystander {b : Handler σ ι} (hb : b.Bystander) (upper lower : Chain σ ι)
    (info : ι) (m : Machine) :
    dispatch (upper ++ b :: lower) info m =
      let d := upper.dispatch info m
      let left := m.perform d.effects
      let o := b.react b.state d.value.info left
      let e := lower.dispatch d.value.info left
      if d.value.claimed then
        ⟨⟨d.value.chain ++ b :: lower, d.value.info, true,
            d.value.calls.map (.raise (lower.length + 1))⟩, d.effects⟩
      else
        ⟨⟨d.value.chain ++ { b with state := o.value.state } :: e.value.chain, e.value.info,
            e.value.claimed, d.value.calls.map (.raise (lower.length + 1))
              ++ ⟨lower.length, b.state, d.value.info, left, o⟩ :: e.value.calls⟩,
          d.effects ++ (o.effects ++ e.effects)⟩ := by
  have hleft : ∀ s info (m : Machine), m.perform (b.react s info m).effects = m := hb.leaves
  rw [dispatch_append]
  dsimp only
  rw [dispatch_cons]
  dsimp only
  rw [hb.declines, hb.passes, hleft]
  rfl

end Chain

end GuestExit
