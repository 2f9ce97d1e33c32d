import GuestExit.Chain.Handler

/-!
# Chains of handlers

A chain holds the handlers registered for one category of exits, the newest first.
An exit goes down the chain until a handler claims it, so late and specific policy
takes precedence over early and general policy. Each handler sees the machine and
the descriptor as the handler before it left them, also if that one declined; the
handlers behind the one that claims are not called and stay as they are.

Handlers are numbered in the order of their registration, from 0. That number does
not change when others are registered later, so it names a handler for good.
-/

namespace GuestExit

/-- The handlers of one category, the newest first. -/
abbrev Chain (σ ι : Type) : Type := List (Handler σ ι)

/-- A handler was called: which one, what it was given, and what came of it. -/
structure Call (σ ι : Type) where
  /-- The number of the handler in the order of registration. -/
  handler : Nat
  /-- Its private state on entry. -/
  state : σ
  /-- The descriptor on entry. -/
  info : ι
  /-- The machine on entry. -/
  machine : Machine
  /-- How the handler reacted, and everything it did to the machine. -/
  outcome : Outcome (Reaction σ ι)
  deriving DecidableEq, Repr

/-- What becomes of an exit that went down a chain. -/
structure Dispatch (σ ι : Type) where
  /-- The same handlers, with their private states as they are now. -/
  chain : Chain σ ι
  /-- The descriptor as the last handler called left it. -/
  info : ι
  /-- Whether a handler claimed the exit. -/
  claimed : Bool
  /-- The handlers called, in order. -/
  calls : List (Call σ ι)

namespace Chain

variable {σ ι : Type}

/-- Puts a handler in front of all others. -/
def register (chain : Chain σ ι) (handler : Handler σ ι) : Chain σ ι :=
  handler :: chain

/-- Sends an exit down a chain. -/
def dispatch : Chain σ ι → ι → ExitM (Dispatch σ ι)
  | [], info => return { chain := [], info, claimed := false, calls := [] }
  | handler :: rest, info => do
    let machine ← ExitM.machine
    let outcome ← (handler.react handler.state info).observe
    let call := { handler := rest.length, state := handler.state, info, machine, outcome }
    let reaction := outcome.value
    let handler := { handler with state := reaction.state }
    if reaction.claims then
      return { chain := handler :: rest, info := reaction.info, claimed := true, calls := [call] }
    else
      let below ← dispatch rest reaction.info
      return { below with chain := handler :: below.chain, calls := call :: below.calls }

@[simp] theorem dispatch_nil (info : ι) (m : Machine) :
    dispatch ([] : Chain σ ι) info m = ⟨⟨[], info, false, []⟩, []⟩ := rfl

/-- What dispatching does is settled by the outcome of the first handler: the exit ends there, or
goes on down the rest of the chain from what that handler left. -/
theorem dispatch_cons (h : Handler σ ι) (rest : Chain σ ι) (info : ι) (m : Machine) :
    dispatch (h :: rest) info m =
      let o := h.react h.state info m
      let call : Call σ ι := ⟨rest.length, h.state, info, m, o⟩
      let h' : Handler σ ι := { h with state := o.value.state }
      if o.value.claims then
        ⟨⟨h' :: rest, o.value.info, true, [call]⟩, o.effects⟩
      else
        let below := dispatch rest o.value.info (m.perform o.effects)
        ⟨⟨h' :: below.value.chain, below.value.info, below.value.claimed,
            call :: below.value.calls⟩,
          o.effects ++ below.effects⟩ := by
  cases hc : (h.react h.state info m).value.claims <;>
    simp [dispatch, ExitM.bind_apply, ExitM.pure_apply, ExitM.final, hc]

/-- **A dispatch does what the handlers called do, and nothing else.** -/
theorem effects_dispatch (chain : Chain σ ι) (info : ι) (m : Machine) :
    (chain.dispatch info m).effects
      = (chain.dispatch info m).value.calls.flatMap fun call => call.outcome.effects := by
  induction chain generalizing info m with
  | nil => rfl
  | cons h rest ih =>
    rw [dispatch_cons]
    dsimp only
    split
    · simp
    · simp [ih]

/-- A dispatch keeps the number of handlers. -/
theorem length_dispatch (chain : Chain σ ι) (info : ι) (m : Machine) :
    (chain.dispatch info m).value.chain.length = chain.length := by
  induction chain generalizing info m with
  | nil => rfl
  | cons h rest ih =>
    rw [dispatch_cons]
    dsimp only
    split
    · rfl
    · simp [ih]

end Chain

end GuestExit
