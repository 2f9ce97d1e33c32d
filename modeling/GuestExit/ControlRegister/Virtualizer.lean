import GuestExit.Chain.Dispatch
import GuestExit.ControlRegister.ExitLog
import GuestExit.Log.Notice

/-!
# Virtualizing control registers

The virtualizer of control register accesses holds a chain of handlers for each
trap and the log of the exits. `handle` reads off the exit qualification which
trap it was, lets the chain decide, and carries the access out if a handler
claimed it. An access that is declined, or that no chain exists for, changes
nothing beyond what the handlers did.

Accesses only exit once the controls say so; `trapCr0Writes` and the like switch
them on.
-/

namespace GuestExit.ControlRegister

open ExitM

/-- The virtualizer of control register accesses. -/
structure Virtualizer (σ : Type) where
  /-- The handlers for each trap. -/
  chains : PerTrap (Chain σ Descriptor) := .replicate []
  log : ExitLog := {}
  /-- Whether exits are recorded. -/
  logging : Bool := false

/-- The exit reason this virtualizer serves. -/
def reason : Reason := .controlRegisterAccesses

/-- What becomes of an exit. -/
structure Handled (σ : Type) where
  virtualizer : Virtualizer σ
  /-- Whether a handler claimed the access, or why that could not be asked. -/
  result : Except ExitError Bool
  /-- The handlers called, in order, with the trap they were called for. -/
  calls : List (Trap × Call σ Descriptor)

namespace Virtualizer

variable {σ : Type}

/-- Puts a handler in front of the others for a trap. -/
def register (v : Virtualizer σ) (trap : Trap) (handler : Handler σ Descriptor) : Virtualizer σ :=
  { v with chains := v.chains.set trap ((v.chains.get trap).register handler) }

/-- Switches the recording of exits on or off. What is recorded stays. -/
def setLogging (v : Virtualizer σ) (on : Bool) : Virtualizer σ :=
  { v with logging := on }

/-- The virtualizer after an exit went down the chain of a trap. -/
def conclude (v : Virtualizer σ) (trap : Trap) (d : Dispatch σ Descriptor) : Virtualizer σ :=
  { v with
    chains := v.chains.set trap d.chain
    log := if v.logging then v.log.push trap (.ofDescriptor d.info) else v.log }

/-- Handles an access for which there is a trap. -/
def serve (v : Virtualizer σ) (trap : Trap) (gpr : Gpr) : ExitM (Handled σ) := do
  let d ← (v.chains.get trap).dispatch (← trap.defaults gpr)
  if d.claimed then
    trap.carryOut gpr d.info
  else
    report (.accessDeclined trap.access)
  return {
    virtualizer := v.conclude trap d
    result := .ok d.claimed
    calls := d.calls.map (trap, ·) }

/-- Gives up on an exit before any handler was called. -/
def refuse (v : Virtualizer σ) (error : ExitError) : Handled σ :=
  { virtualizer := v, result := .error error, calls := [] }

/-- What is told about an access for which there is no trap. -/
def unsupported (q : Qualification) : Notice :=
  if q.access.kind = .lmsw then .lmswUnsupported q.lmswSource q.lmswMemory
  else .accessUnsupported q.access

/-- Handles an exit caused by a control register access. -/
def handle (v : Virtualizer σ) : ExitM (Handled σ) := do
  match Qualification.decode (← read .exitQualification) with
  | .error e => return v.refuse e
  | .ok q =>
    report (.accessed q.access q.gpr)
    match Trap.ofAccess? q.access with
    | some trap => v.serve trap q.gpr
    | none =>
      report (unsupported q)
      return v.refuse (.unsupportedAccess q.access)

/-- A qualification that names no control register ends the exit at once. -/
theorem handle_of_invalid {v : Virtualizer σ} {m : Machine} {e : ExitError}
    (h : Qualification.decode (m.vmcs.read .exitQualification) = .error e) :
    v.handle m = ⟨v.refuse e, []⟩ := by
  simp [handle, ExitM.bind_apply, h, ExitM.pure_apply]

/-- An access without a trap is told about, and ends the exit. -/
theorem handle_of_unsupported {v : Virtualizer σ} {m : Machine} {q : Qualification}
    (h : Qualification.decode (m.vmcs.read .exitQualification) = .ok q)
    (ht : Trap.ofAccess? q.access = none) :
    v.handle m = ⟨v.refuse (.unsupportedAccess q.access),
      [.report (.accessed q.access q.gpr), .report (unsupported q)]⟩ := by
  simp [handle, ExitM.bind_apply, h, ht]

/-- **An access with a trap goes down the chain of that trap**, starting from its defaults. If it is
claimed it is carried out on the machine the handlers left. -/
theorem handle_of_trap {v : Virtualizer σ} {m : Machine} {q : Qualification} {t : Trap}
    (h : Qualification.decode (m.vmcs.read .exitQualification) = .ok q)
    (ht : Trap.ofAccess? q.access = some t) :
    v.handle m =
      let d := (v.chains.get t).dispatch (t.defaults q.gpr m).value m
      ⟨{ virtualizer := v.conclude t d.value
         result := .ok d.value.claimed
         calls := d.value.calls.map (t, ·) },
        .report (.accessed q.access q.gpr) :: (d.effects ++
          if d.value.claimed then (t.carryOut q.gpr d.value.info (m.perform d.effects)).effects
          else [.report (.accessDeclined q.access)])⟩ := by
  have ha : t.access = q.access := Trap.ofAccess?_eq_some_iff.mp ht
  cases hc : ((v.chains.get t).dispatch (t.defaults q.gpr m).value m).value.claimed <;>
    simp [handle, serve, ExitM.bind_apply, ExitM.final, h, ht, hc, ha]

/-- Puts the recorded exits into the log. -/
def dump (v : Virtualizer σ) : List Notice :=
  Notice.dump (v.log.writeTo {})

/-- What the log is told when the virtualizer is given up: the recorded exits, if it was still
recording. -/
def retire (v : Virtualizer σ) : List Notice :=
  if v.logging then v.dump else []

end Virtualizer

/-- Makes guest writes of the CR0 bits in `mask` exit. The guest reads those bits from `shadow`. -/
def trapCr0Writes (mask shadow : UInt64) : ExitM Unit := do
  write .cr0Mask mask
  write .cr0Shadow shadow
  report (.cr0WritesExit mask shadow)

/-- Makes guest writes of the CR4 bits in `mask` exit. The guest reads those bits from `shadow`. -/
def trapCr4Writes (mask shadow : UInt64) : ExitM Unit := do
  write .cr4Mask mask
  write .cr4Shadow shadow
  report (.cr4WritesExit mask shadow)

/-- Makes guest reads of CR3 exit. -/
def trapCr3Reads : ExitM Unit := do
  setBits .primaryControls Control.cr3StoreExiting
  report .cr3ReadsExit

/-- Makes guest writes of CR3 exit. -/
def trapCr3Writes : ExitM Unit := do
  setBits .primaryControls Control.cr3LoadExiting
  report .cr3WritesExit

end GuestExit.ControlRegister
