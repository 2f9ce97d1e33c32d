import GuestExit.ControlRegister.Virtualizer
import GuestExit.Proofs.Chain.Indifferent
import GuestExit.Proofs.Chain.Layers
import GuestExit.Script.Handler

/-!
# Stale copies

The guest's stack pointer and instruction pointer are kept twice, and the saved copies are stale: on
an exit the processor puts the true ones into the control structure. The saved flags are not looked
at either. `Machine.Alike` relates machines that differ in these three copies and in nothing else,
and work is `Blind` if it cannot tell such machines apart: it has the same value and the same
effects on both. What it leaves is alike again then.

All that the library does to a machine is blind, since it goes through `readGpr`, `writeGpr` and
`advanceRip`. Overwriting a stale copy is blind as well, as long as the value does not come from
one. So handlers are blind if that is how they reach the saved registers, and going down a chain of
such handlers comes to the same on machines that are alike (`Chain.dispatch_alike`).
-/

namespace GuestExit

variable {σ ι α β : Type}

namespace Machine

/-- The two machines differ in stale copies at most: the saved stack pointer, instruction pointer
and flags. -/
structure Alike (m m' : Machine) : Prop where
  /-- They have the same control structure, -/
  vmcs : m.vmcs = m'.vmcs
  /-- and the same in the fifteen saved registers that are the guest's own. -/
  gprs : ∀ g, g ≠ Gpr.rsp → m.saved.read (.gpr g) = m'.saved.read (.gpr g)

variable {m m' : Machine}

/-- The guest has the same in all sixteen registers. -/
theorem Alike.gpr (h : m.Alike m') (g : Gpr) : m.gpr g = m'.gpr g := by
  unfold Machine.gpr
  split
  · rw [h.vmcs]
  · next hne => exact h.gprs g hne

theorem Alike.save (h : m.Alike m') (r : Register) (v : UInt64) :
    Alike { m with saved := m.saved.write r v } { m' with saved := m'.saved.write r v } := by
  refine ⟨h.vmcs, fun g hg => ?_⟩
  rw [Registers.read_write, Registers.read_write, h.gprs g hg]

/-- **Machines that are alike stay so** if the same happens to both. -/
theorem Alike.perform (h : m.Alike m') (effects : List Effect) :
    (m.perform effects).Alike (m'.perform effects) := by
  induction effects generalizing m m' with
  | nil => exact h
  | cons e rest ih =>
    refine ih ?_
    cases e with
    | write f v => exact ⟨congrArg (·.write f v) h.vmcs, h.gprs⟩
    | save r v => exact h.save r v
    | report n => exact h

end Machine

/-! ## Work that does not see the stale copies -/

namespace ExitM

/-- Work that does the same on machines that are alike. -/
def Blind (x : ExitM α) : Prop :=
  ∀ m m', m.Alike m' → x m = x m'

theorem Blind.bind {x : ExitM α} {k : α → ExitM β} (hx : x.Blind) (hk : ∀ a, (k a).Blind) :
    (x >>= k).Blind := by
  intro m m' h
  have hfirst := hx m m' h
  have hleft : (x.final m).Alike (x.final m') := by
    unfold final
    rw [hfirst]
    exact h.perform _
  rw [bind_apply, bind_apply, hk _ _ _ hleft, hfirst]

theorem blind_pure (a : α) : (pure a : ExitM α).Blind := fun _ _ _ => rfl

theorem blind_emit (e : Effect) : (emit e).Blind := fun _ _ _ => rfl

theorem blind_read (f : Field) : (read f).Blind := by
  intro m m' h
  unfold read
  rw [h.vmcs]

theorem blind_readGpr (g : Gpr) : (readGpr g).Blind := by
  intro m m' h
  unfold readGpr
  rw [h.gpr g]

theorem blind_setBits (f : Field) (bits : UInt64) : (setBits f bits).Blind :=
  (blind_read f).bind fun _ => blind_emit _

theorem blind_clearBits (f : Field) (bits : UInt64) : (clearBits f bits).Blind :=
  (blind_read f).bind fun _ => blind_emit _

theorem blind_writeGpr (g : Gpr) (v : UInt64) : (writeGpr g v).Blind := by
  refine (blind_emit _).bind fun _ => ?_
  split
  · exact blind_emit _
  · exact blind_pure ()

/-- The instruction pointer is moved from where the control structure has it. -/
theorem blind_advanceRip : advanceRip.Blind := by
  refine (blind_read _).bind fun length => (blind_read _).bind fun old => ?_
  have hmove : ∀ new, (do save .rip new; write .guestRip new; report (.ripAdvanced old new)
      : ExitM Unit).Blind := fun new =>
    (blind_emit _).bind fun _ => (blind_emit _).bind fun _ => blind_emit _
  split
  · exact hmove _
  · exact (blind_emit _).bind fun _ => hmove _

theorem blind_injectInterrupt (vector : UInt8) : (injectInterrupt vector).Blind :=
  (blind_emit _).bind fun _ => blind_emit _

theorem blind_injectFault (code : UInt32) : (injectFault code).Blind :=
  (blind_emit _).bind fun _ => (blind_emit _).bind fun _ => blind_emit _

end ExitM

/-! ## Accesses and interrupts -/

open ExitM

namespace ControlRegister

theorem Trap.blind_defaults (t : Trap) (g : Gpr) : (t.defaults g).Blind := by
  cases t with
  | writeCr0 | writeCr4 =>
    exact (blind_readGpr g).bind fun _ => (blind_read _).bind fun _ => blind_pure _
  | readCr3 => exact (blind_read _).bind fun _ => blind_pure _
  | writeCr3 => exact (blind_readGpr g).bind fun _ => blind_pure _

theorem Trap.blind_emulate (t : Trap) (g : Gpr) (info : Descriptor) : (t.emulate g info).Blind := by
  cases t with
  | writeCr0 | writeCr4 => exact (blind_emit _).bind fun _ => blind_emit _
  | readCr3 => exact blind_writeGpr g _
  | writeCr3 => exact blind_emit _

theorem Trap.blind_carryOut (t : Trap) (g : Gpr) (info : Descriptor) :
    (t.carryOut g info).Blind := by
  have hadvance : (if info.ignoreAdvance then pure () else advanceRip : ExitM Unit).Blind := by
    split
    · exact blind_pure _
    · exact blind_advanceRip
  unfold carryOut
  dsimp only
  split
  · exact hadvance
  · exact (t.blind_emulate g info).bind fun _ => hadvance

theorem blind_hideVmxe (info : Descriptor) : (hideVmxe info).Blind := blind_pure _

theorem blind_rejectReserved (info : Descriptor) : (rejectReserved info).Blind := by
  unfold rejectReserved
  dsimp only
  split
  · exact blind_pure _
  · exact (blind_emit _).bind fun _ => (blind_injectFault 0).bind fun _ => blind_pure _

theorem blind_trapCr0Writes (mask shadow : UInt64) : (trapCr0Writes mask shadow).Blind :=
  (blind_emit _).bind fun _ => (blind_emit _).bind fun _ => blind_emit _

theorem blind_trapCr4Writes (mask shadow : UInt64) : (trapCr4Writes mask shadow).Blind :=
  (blind_emit _).bind fun _ => (blind_emit _).bind fun _ => blind_emit _

theorem blind_trapCr3Reads : trapCr3Reads.Blind :=
  (blind_setBits _ _).bind fun _ => blind_emit _

theorem blind_trapCr3Writes : trapCr3Writes.Blind :=
  (blind_setBits _ _).bind fun _ => blind_emit _

end ControlRegister

namespace Interrupt

theorem blind_acknowledged : acknowledged.Blind := by
  refine (blind_read _).bind fun word => ?_
  cases Interruption.ofWord? word.toUInt32 with
  | some event => exact blind_pure _
  | none => exact (blind_emit _).bind fun _ => blind_pure _

theorem blind_reinject (info : Descriptor) : (reinject info).Blind :=
  (blind_injectInterrupt info.vector).bind fun _ => blind_pure _

theorem blind_trapInterrupts : trapInterrupts.Blind :=
  (blind_setBits _ _).bind fun _ => (blind_setBits _ _).bind fun _ => blind_emit _

theorem blind_untrapInterrupts : untrapInterrupts.Blind :=
  (blind_clearBits _ _).bind fun _ => (blind_clearBits _ _).bind fun _ => blind_emit _

end Interrupt

/-! ## Handlers -/

/-- A handler that does the same on machines that are alike. -/
def Handler.Blind (h : Handler σ ι) : Prop :=
  ∀ s info, (h.react s info).Blind

theorem Handler.blind_stateless [Inhabited σ] {react : ι → ExitM (ι × Bool)}
    (h : ∀ info, (react info).Blind) : (Handler.stateless (σ := σ) react).Blind :=
  fun _ info => (h info).bind fun _ => blind_pure _

/-- The two calls are the same, but for stale copies on entry. -/
structure Call.Alike (c c' : Call σ ι) : Prop where
  handler : c.handler = c'.handler
  state : c.state = c'.state
  info : c.info = c'.info
  machine : c.machine.Alike c'.machine
  /-- The handler reacts the same, and does the same. -/
  outcome : c.outcome = c'.outcome

/-- **A chain of blind handlers does not see the stale copies.** -/
theorem Chain.dispatch_alike {chain : Chain σ ι} (blind : ∀ h ∈ chain, h.Blind) (info : ι)
    {m m' : Machine} (alike : m.Alike m') :
    let d := chain.dispatch info m
    let d' := chain.dispatch info m'
    d.value.chain = d'.value.chain ∧ d.value.info = d'.value.info
      ∧ d.value.claimed = d'.value.claimed ∧ d.effects = d'.effects
      ∧ List.Forall₂ Call.Alike d.value.calls d'.value.calls := by
  obtain ⟨hchain, hinfo, hclaimed, heffects, hcalls⟩ :=
    Chain.dispatch_indifferent Machine.Alike.perform blind info alike
  refine ⟨hchain, hinfo, hclaimed, heffects, hcalls.imp fun _ _ h => ?_⟩
  exact ⟨h.handler, h.state, h.info, h.machine, h.outcome⟩

namespace Script

theorem MachineAction.blind_run (action : MachineAction) : action.run.Blind := by
  cases action with
  | write | save => exact blind_emit _
  | setBits f bits => exact blind_setBits f bits
  | clearBits f bits => exact blind_clearBits f bits
  | writeGpr g v => exact blind_writeGpr g v
  | advanceRip => exact blind_advanceRip
  | injectInterrupt vector => exact blind_injectInterrupt vector
  | injectFault code => exact blind_injectFault code

theorem AccessAction.blind_run (action : AccessAction) (info : ControlRegister.Descriptor)
    (policy : Bool) : (action.run info policy).Blind := by
  cases action with
  | machine action => exact action.blind_run.bind fun _ => blind_pure _
  | valueFromGpr g => exact (blind_readGpr g).bind fun _ => blind_pure _
  | hideVmxe => exact ControlRegister.blind_hideVmxe info
  | rejectReserved => exact ControlRegister.blind_rejectReserved info
  | _ => exact blind_pure _

theorem blind_runAll {run : α → ι → Bool → ExitM (ι × Bool)}
    (h : ∀ action info policy, (run action info policy).Blind) (actions : List α) (info : ι)
    (policy : Bool) : (runAll run actions info policy).Blind := by
  induction actions generalizing info policy with
  | nil => exact blind_pure _
  | cons action rest ih => exact (h action info policy).bind fun left => ih left.1 left.2

/-- **Every scripted handler is blind**, since no action names the saved copies but to overwrite
them. -/
theorem blind_handler {run : α → ι → Bool → ExitM (ι × Bool)}
    (h : ∀ action info policy, (run action info policy).Blind) (name : String) (key : ι → UInt64)
    (actions : List α) (rule : ClaimRule) : (handler name run key actions rule).Blind :=
  fun _ info => (blind_runAll h actions info false).bind fun _ => blind_pure _

end Script

end GuestExit
