import GuestExit.Machine.ExitM

/-!
# Handlers

A handler decides about exits of one category. It owns a private state, and each
exit hands it a descriptor of what happened: it may change both, act on the
machine, and claim the exit or decline it. Nothing else distinguishes handlers, so
a handler is its state together with the function that reacts.
-/

namespace GuestExit

/-- How a handler leaves its state and the descriptor, and whether it claims the exit. -/
structure Reaction (σ ι : Type) where
  state : σ
  info : ι
  claims : Bool
  deriving DecidableEq, Repr

/-- A handler with private state in `σ` for exits described by `ι`. -/
structure Handler (σ ι : Type) where
  /-- The private state, as the last exit left it. -/
  state : σ
  /-- What the handler does when it is called. -/
  react : σ → ι → ExitM (Reaction σ ι)

namespace Handler

variable {σ ι : Type}

/-- A handler that keeps no state of its own. -/
def stateless [Inhabited σ] (react : ι → ExitM (ι × Bool)) : Handler σ ι where
  state := default
  react s info := do
    let (info, claims) ← react info
    return { state := s, info, claims }

end Handler

end GuestExit
