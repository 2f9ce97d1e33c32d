import GuestExit.Chain.Dispatch
import Mathlib.Data.List.Forall2

/-!
# Machines that handlers cannot tell apart

Two machines may differ in something that no handler looks at. If the handlers of a chain do the
same on both, and what is done to both keeps them related, then an exit comes to the same on both
(`Chain.dispatch_indifferent`): the same handlers are called, in the same states, and only the
machines that they are given on entry may differ.

The simplest such relation is to differ in a single field at most (`Machine.DifferAt`).
-/

namespace GuestExit

variable {σ ι : Type}

/-- A handler that does the same on related machines. -/
def Handler.Indifferent (R : Machine → Machine → Prop) (h : Handler σ ι) : Prop :=
  ∀ s info m m', R m m' → h.react s info m = h.react s info m'

/-- The two calls are the same, but for the machines on entry, which are related. -/
structure Call.Like (R : Machine → Machine → Prop) (c c' : Call σ ι) : Prop where
  handler : c.handler = c'.handler
  state : c.state = c'.state
  info : c.info = c'.info
  machine : R c.machine c'.machine
  /-- The handler reacts the same, and does the same. -/
  outcome : c.outcome = c'.outcome

/-- **A chain of indifferent handlers comes to the same on related machines.** -/
theorem Chain.dispatch_indifferent {R : Machine → Machine → Prop}
    (kept : ∀ {m m'}, R m m' → ∀ effects, R (m.perform effects) (m'.perform effects))
    {chain : Chain σ ι} (indifferent : ∀ h ∈ chain, h.Indifferent R) (info : ι) {m m' : Machine}
    (related : R m m') :
    let d := chain.dispatch info m
    let d' := chain.dispatch info m'
    d.value.chain = d'.value.chain ∧ d.value.info = d'.value.info
      ∧ d.value.claimed = d'.value.claimed ∧ d.effects = d'.effects
      ∧ List.Forall₂ (Call.Like R) d.value.calls d'.value.calls := by
  induction chain generalizing info m m' with
  | nil => exact ⟨rfl, rfl, rfl, rfl, .nil⟩
  | cons h rest ih =>
    have houtcome : h.react h.state info m = h.react h.state info m' :=
      indifferent h List.mem_cons_self h.state info m m' related
    have hcall : Call.Like R ⟨rest.length, h.state, info, m, h.react h.state info m⟩
        ⟨rest.length, h.state, info, m', h.react h.state info m'⟩ :=
      ⟨rfl, rfl, rfl, related, houtcome⟩
    obtain ⟨hchain, hinfo, hclaimed, heffects, hcalls⟩ :=
      ih (fun h' hh' => indifferent h' (List.mem_cons_of_mem h hh'))
        (h.react h.state info m).value.info (kept related (h.react h.state info m).effects)
    dsimp only
    rw [dispatch_cons, dispatch_cons]
    dsimp only
    rw [← houtcome] at hcall ⊢
    split
    · exact ⟨rfl, rfl, rfl, rfl, .cons hcall .nil⟩
    · exact ⟨by rw [hchain], hinfo, hclaimed, by rw [heffects], .cons hcall hcalls⟩

/-! ## One field -/

/-- The two machines differ in a single field at most. -/
structure Machine.DifferAt (f : Field) (m m' : Machine) : Prop where
  fields : ∀ g, g ≠ f → m.vmcs.read g = m'.vmcs.read g
  saved : m.saved = m'.saved

variable {f : Field} {m m' : Machine}

theorem Machine.differAt_write (f : Field) (v : UInt64) (m : Machine) :
    m.DifferAt f { m with vmcs := m.vmcs.write f v } :=
  ⟨fun _ hg => (Vmcs.read_write_of_ne _ _ hg).symm, rfl⟩

theorem Machine.DifferAt.perform (h : m.DifferAt f m') (effects : List Effect) :
    (m.perform effects).DifferAt f (m'.perform effects) := by
  induction effects generalizing m m' with
  | nil => exact h
  | cons e rest ih =>
    refine ih ?_
    cases e with
    | write g v =>
      refine ⟨fun k hk => ?_, h.saved⟩
      rw [apply_write, apply_write, Vmcs.read_write, Vmcs.read_write, h.fields k hk]
    | save r v => exact ⟨h.fields, congrArg (·.write r v) h.saved⟩
    | report n => exact h

end GuestExit
