import GuestExit.Proofs.Machine.Operands
import GuestExit.Proofs.Vm.Confinement
import GuestExit.Proofs.Vm.Written
import GuestExit.Script.Handler

/-!
# Where the guest goes on

The instruction pointer is kept twice, in the control structure and among the saved registers, and a
third field says how long the instruction was that exited. If the handlers keep their hands off all
three (`Steady`), an exit moves the instruction pointer once or not at all, and which of the two is
settled by the question and its answer: it moves exactly if the exit is an access that its handlers
claim without having taken care of it themselves (`Vm.advances`). How far is settled before any
handler is asked (`Machine.stride`).

All of this comes from one equation about what such an exit changes: first anything that has no part
in it, and then the advancement, or nothing (`changes_service_of_steady`). A run adds up what its
exits do, modulo 2^64.
-/

namespace GuestExit

open ControlRegister (Trap)

variable {σ ι α : Type}

/-! ## Effects that have no part in it -/

/-- Whether an effect has a part in where the guest goes on. -/
def Effect.steers : Effect → Bool
  | .write field _ => field = .guestRip ∨ field = .exitInstructionLength
  | .save register _ => register = .rip
  | .report _ => false

/-- Effects that have no part in where the guest goes on. -/
def Steady (effects : List Effect) : Prop :=
  ∀ e ∈ effects, e.steers = false

instance (effects : List Effect) : Decidable (Steady effects) :=
  inferInstanceAs (Decidable (∀ e ∈ effects, e.steers = false))

namespace Steady

variable {effects a b : List Effect}

theorem nil : Steady [] := by
  simp [Steady]

theorem append (ha : Steady a) (hb : Steady b) : Steady (a ++ b) :=
  List.forall_mem_append.mpr ⟨ha, hb⟩

theorem changes (h : Steady effects) : Steady (changes effects) :=
  fun e he => h e (List.mem_filter.mp he).1

theorem notMem_writes (h : Steady effects) (v : UInt64) : (Field.guestRip, v) ∉ writes effects := by
  intro hv
  obtain ⟨e, he, hwritten⟩ := List.mem_filterMap.mp hv
  have hsteers := h e he
  cases e with
  | write f w =>
    obtain ⟨rfl, -⟩ := Prod.mk.inj (Option.some.inj hwritten)
    exact absurd hsteers (by simp [Effect.steers])
  | save | report => exact absurd hwritten (by simp [Effect.written?])

theorem filter_writes (h : Steady effects) :
    (writes effects).filter (fun w => w.1 = .guestRip) = [] := by
  refine List.filter_eq_nil_iff.mpr fun w hw hrip => h.notMem_writes w.2 ?_
  obtain ⟨f, v⟩ := w
  obtain rfl : f = .guestRip := of_decide_eq_true hrip
  exact hw

theorem read_rip (h : Steady effects) (m : Machine) :
    (m.perform effects).vmcs.read .guestRip = m.vmcs.read .guestRip :=
  Machine.read_perform (fun v hv => absurd (h _ hv) (by simp [Effect.steers])) m

theorem read_length (h : Steady effects) (m : Machine) :
    (m.perform effects).vmcs.read .exitInstructionLength = m.vmcs.read .exitInstructionLength :=
  Machine.read_perform (fun v hv => absurd (h _ hv) (by simp [Effect.steers])) m

theorem saved_rip (h : Steady effects) (m : Machine) :
    (m.perform effects).saved.read .rip = m.saved.read .rip :=
  Machine.saved_perform (fun v hv => absurd (h _ hv) (by simp [Effect.steers])) m

/-- The guest goes on where it would have gone on. -/
theorem nextRip (h : Steady effects) (m : Machine) : (m.perform effects).nextRip = m.nextRip := by
  unfold Machine.nextRip
  rw [h.read_rip, h.read_length]

end Steady

theorem ControlRegister.Trap.steady_transfer (t : Trap) (g : Gpr)
    (info : ControlRegister.Descriptor) : Steady (t.transfer g info) := by
  cases t with
  | readCr3 =>
    by_cases hg : g = Gpr.rsp
    · simp +decide [Steady, Trap.transfer, Effect.steers, hg]
    · simp [Steady, Trap.transfer, Effect.steers, hg]
  | writeCr0 | writeCr3 | writeCr4 => simp +decide [Steady, Trap.transfer, Effect.steers]

/-! ## Handlers that have no part in it -/

/-- A handler that leaves it to others where the guest goes on. -/
def Handler.Steady (h : Handler σ ι) : Prop :=
  ∀ s info m, GuestExit.Steady (h.react s info m).effects

/-- **Calls of steady handlers are steady.** -/
theorem Chain.steady_dispatch {chain : Chain σ ι} (h : ∀ handler ∈ chain, handler.Steady)
    (info : ι) (m : Machine) :
    ∀ c ∈ (chain.dispatch info m).value.calls, Steady c.outcome.effects := by
  intro c hc
  obtain ⟨handler, hget, -, hreact⟩ := (traversal chain info m).reacted hc
  rw [hreact]
  exact h handler (List.mem_reverse.mp (List.mem_of_getElem? hget)) _ _ _

section Builtin

variable [Inhabited σ]

theorem ControlRegister.steady_hideVmxe : (Handler.stateless (σ := σ) hideVmxe).Steady :=
  fun _ _ _ => Steady.nil

theorem ControlRegister.steady_rejectReserved :
    (Handler.stateless (σ := σ) rejectReserved).Steady := by
  intro s info m
  by_cases h : info.value &&& ~~~Cr4.defined = 0
  · simp [Handler.stateless, rejectReserved, h, Steady]
  · simp +decide [Handler.stateless, rejectReserved, h, Steady, ExitM.effects_injectFault,
      Effect.steers]

theorem Interrupt.steady_reinject : (Handler.stateless (σ := σ) reinject).Steady := by
  intro s info m
  simp +decide [Handler.stateless, reinject, Steady, ExitM.effects_injectInterrupt, Effect.steers]

end Builtin

/-- The calls that a step makes are those that come of what it asks. -/
theorem VmM.calls_step_eq_consult [Inhabited σ] (s : Step σ) (vm : Vm σ) :
    (step s vm).calls = (((vm.serves s).bind vm.asks).map vm.consult).getD [] := by
  rw [calls_step]
  cases hs : vm.serves s with
  | none => rw [Vm.service_of_unserved hs]; rfl
  | some route =>
    rw [Vm.service_of_serves hs]
    exact calls_handle route vm

/-- If all handlers are steady, so is every call. -/
theorem Vm.steady_calls [Inhabited σ] {vm : Vm σ} (h : ∀ c, ∀ handler ∈ vm.chain c, handler.Steady)
    (s : Step σ) : ∀ c ∈ (VmM.step s vm).calls, Steady c.effects := by
  rw [VmM.calls_step_eq_consult]
  rcases (vm.serves s).bind vm.asks with _ | (_ | ⟨t, g⟩)
  · intro c hc
    exact absurd hc List.not_mem_nil
  · exact List.forall_mem_map.mpr (Chain.steady_dispatch (h .interrupt) _ _)
  · exact List.forall_mem_map.mpr (Chain.steady_dispatch (h (.access t)) _ _)

/-! ## What a steady exit changes -/

namespace Vm

/-- Whether the answer to a question sends the guest on behind the instruction: an access is
claimed, by handlers that have not taken care of it themselves. -/
def sendsOn (vm : Vm σ) : Option Question → Bool
  | some (.access t g) =>
    let d := (vm.controlRegister.ask t g vm.machine).value
    d.claimed && !d.info.ignoreAdvance
  | _ => false

/-- Whether a step moves the instruction pointer by way of an exit. -/
def advances (vm : Vm σ) (s : Step σ) : Bool :=
  vm.sendsOn ((vm.serves s).bind vm.asks)

/-- Everything that is left to steady handlers has no part in where the guest goes on. -/
theorem steady_of_leftToHandlers {vm : Vm σ} {t : Transition σ α} (h : LeftToHandlers vm t)
    (steady : ∀ c ∈ t.calls, Steady c.effects) : Steady (changes t.effects) := by
  rw [h.changes]
  exact Steady.changes (List.forall_mem_flatMap.mpr steady)

/-- What follows on the answer of steady handlers: the value is moved, if it is, and then the
instruction pointer. -/
theorem consequence_of_steady {vm : Vm σ} {t : Trap} {g : Gpr}
    (steady : Steady (vm.controlRegister.ask t g vm.machine).effects) :
    ∃ others, Steady others ∧ vm.controlRegister.consequence t g vm.machine
      = others ++ if vm.sendsOn (some (.access t g)) then vm.machine.advancement else [] := by
  by_cases hc : (vm.controlRegister.ask t g vm.machine).value.claimed = true
  · have hadvancement : (vm.machine.perform
        (vm.controlRegister.ask t g vm.machine).effects).advancement = vm.machine.advancement := by
      rw [Machine.advancement_eq, steady.nextRip, ← Machine.advancement_eq]
    have htransfer : ∀ info : ControlRegister.Descriptor,
        Steady (if info.ignoreWrite then [] else t.transfer g info) := by
      intro info
      split
      · exact Steady.nil
      · exact t.steady_transfer g info
    rw [ControlRegister.Virtualizer.consequence_of_claimed hc, Trap.aftermath, hadvancement]
    refine ⟨_, htransfer _, congrArg _ ?_⟩
    by_cases ha : (vm.controlRegister.ask t g vm.machine).value.info.ignoreAdvance = true
    · simp [sendsOn, hc, ha]
    · simp [sendsOn, hc, ha]
  · rw [ControlRegister.Virtualizer.consequence_of_declined (Bool.eq_false_iff.mpr hc)]
    exact ⟨[], Steady.nil, by simp [sendsOn, hc]⟩

theorem changes_handle_of_steady {vm : Vm σ} {route : Route}
    (steady : ∀ c ∈ (VmM.handle route vm).calls, Steady c.effects) :
    ∃ others, Steady others ∧ changes (VmM.handle route vm).effects
      = others ++ if vm.sendsOn (vm.asks route) then vm.machine.advancement else [] := by
  cases route with
  | externalInterrupt =>
    have hsteady := steady_of_leftToHandlers (VmM.interrupt_leftToHandlers vm) steady
    exact ⟨_, hsteady, (List.append_nil _).symm⟩
  | controlRegister =>
    cases hw : Trap.ofWord? vm.qualificationWord with
    | none =>
      have hasks : vm.asks .controlRegister = none := by
        unfold asks
        rw [hw]
        rfl
      rw [hasks, (VmM.handle_of_untrapped hw).2.2.2]
      exact ⟨[], Steady.nil, rfl⟩
    | some p =>
      obtain ⟨t, g⟩ := p
      have hasks : vm.asks .controlRegister = some (.access t g) := by
        unfold asks
        rw [hw]
        rfl
      -- what the handlers did is what their calls did
      have hdispatch : ((vm.controlRegister.ask t g vm.machine).value.calls.map
          (Called.access t)).flatMap Called.effects
          = (vm.controlRegister.ask t g vm.machine).effects :=
        effects_calls_dispatch (fun _ => rfl) ..
      have hask : Steady (vm.controlRegister.ask t g vm.machine).effects := by
        rw [← hdispatch]
        refine List.forall_mem_flatMap.mpr fun c hc => steady c ?_
        rw [VmM.calls_handle, hasks]
        exact hc
      obtain ⟨others, hothers, hconsequence⟩ := consequence_of_steady hask
      have hchanges : changes (VmM.handle .controlRegister vm).effects = _ :=
        ControlRegister.Virtualizer.changes_handle (v := vm.controlRegister) hw
      rw [hchanges, hasks, hconsequence, ← List.append_assoc]
      exact ⟨_, hask.changes.append hothers, rfl⟩

/-- **A steady exit changes something else first, if anything**, and then moves the instruction
pointer or does not. -/
theorem changes_service_of_steady {vm : Vm σ} {s : Step σ}
    (steady : ∀ c ∈ (vm.service s).calls, Steady c.effects) :
    ∃ others, Steady others ∧ changes (vm.service s).effects
      = others ++ if vm.advances s then vm.machine.advancement else [] := by
  unfold advances
  cases hs : vm.serves s with
  | none =>
    rw [service_of_unserved hs]
    exact ⟨[], Steady.nil, rfl⟩
  | some route =>
    rw [service_of_serves hs] at steady ⊢
    exact changes_handle_of_steady steady

/-- Only an exit that is claimed moves the instruction pointer. -/
theorem claimed_of_advances {vm : Vm σ} {s : Step σ} (h : vm.advances s = true) :
    s.takesExit = true ∧ (vm.service s).value = .ok true := by
  unfold advances at h
  cases hs : vm.serves s with
  | none =>
    rw [hs] at h
    exact absurd h (by simp [sendsOn])
  | some route =>
    rw [hs] at h
    refine ⟨takesExit_of_serves hs, ?_⟩
    rw [service_of_serves hs]
    cases route with
    | externalInterrupt => exact absurd h (by simp [sendsOn, asks])
    | controlRegister =>
      cases hw : Trap.ofWord? vm.qualificationWord with
      | none => exact absurd h (by simp [sendsOn, asks, hw])
      | some p =>
        have hc : (vm.controlRegister.ask p.1 p.2 vm.machine).value.claimed = true := by
          simp only [Option.bind_some, asks, hw, Option.map_some, sendsOn, Bool.and_eq_true] at h
          exact h.1
        rw [VmM.handle_controlRegister]
        dsimp only
        rw [ControlRegister.Virtualizer.value_handle hw, hc]

end Vm

/-! ## Exits -/

/-- A step moved the instruction pointer behind the instruction that exited on `m`, once, and as the
last thing it did to the control structure. -/
structure Advanced (s : Step σ) (m : Machine) (t : Transition σ Answer) : Prop where
  accepted : t.value = s.accepted
  rip : (t.vm.machine.vmcs.read .guestRip).toNat
    = ((m.vmcs.read .guestRip).toNat + m.stride) % UInt64.size
  /-- The instruction has one byte at least and 15 at most. -/
  stride : 1 ≤ m.stride ∧ m.stride ≤ 15
  saved : t.vm.machine.saved.read .rip = t.vm.machine.vmcs.read .guestRip
  once : (writes t.effects).filter (fun w => w.1 = .guestRip)
    = [(.guestRip, t.vm.machine.vmcs.read .guestRip)]
  last : (writes t.effects).getLast? = some (.guestRip, t.vm.machine.vmcs.read .guestRip)

/-- A step left the instruction pointer of `m` alone. -/
structure Stayed (m : Machine) (t : Transition σ α) : Prop where
  rip : t.vm.machine.vmcs.read .guestRip = m.vmcs.read .guestRip
  saved : t.vm.machine.saved.read .rip = m.saved.read .rip
  unwritten : ∀ v, (Field.guestRip, v) ∉ writes t.effects

variable [Inhabited σ]

/-- **An exit moves the instruction pointer once or leaves it alone**, if its handlers have no part
in it. -/
theorem VmM.step_of_steady {vm : Vm σ} {s : Step σ} (h : s.takesExit = true)
    (steady : ∀ c ∈ (step s vm).calls, Steady c.effects) :
    (vm.advances s = true → Advanced s vm.machine (step s vm))
      ∧ (vm.advances s = false → Stayed vm.machine (step s vm)) := by
  rw [calls_step] at steady
  obtain ⟨others, hothers, hchanges⟩ := Vm.changes_service_of_steady steady
  rw [← changes_step_of_takesExit h] at hchanges
  have hmachine := machine_step_of_takesExit h vm
  rw [← vm.machine.perform_changes, hchanges] at hmachine
  have hwrites := writes_changes (step s vm).effects
  rw [hchanges, writes_append] at hwrites
  constructor
  · intro ha
    rw [ha, if_pos rfl] at hmachine hwrites
    rw [Machine.perform_append] at hmachine
    have hrip : (step s vm).vm.machine.vmcs.read .guestRip = vm.machine.nextRip := by
      rw [hmachine, Machine.read_advancement, if_pos rfl]
    refine
      { accepted := value_step_of_claimed h (Vm.claimed_of_advances ha).2
        rip := by rw [hrip, Machine.toNat_nextRip]
        stride := vm.machine.stride_bounds
        saved := by rw [hrip, hmachine, Machine.saved_advancement, if_pos rfl]
        once := ?_
        last := ?_ }
    · rw [← hwrites, List.filter_append, hothers.filter_writes, hrip]
      rfl
    · rw [← hwrites, hrip]
      exact List.getLast?_concat ..
  · intro ha
    rw [ha, if_neg Bool.false_ne_true, List.append_nil] at hmachine
    rw [ha, if_neg Bool.false_ne_true, writes_nil, List.append_nil] at hwrites
    refine
      { rip := by rw [hmachine, hothers.read_rip]
        saved := by rw [hmachine, hothers.saved_rip]
        unwritten := fun v => ?_ }
    rw [← hwrites]
    exact hothers.notMem_writes v

/-! ## Runs -/

namespace Vm

/-- How far the exits of a run move the instruction pointer, in bytes. -/
def travelled (vm : Vm σ) : List (Step σ) → Nat
  | [] => 0
  | s :: rest =>
    (if vm.advances s then vm.machine.stride else 0) + (VmM.step s vm).vm.travelled rest

/-- It is left to the exits of a run where the guest goes on: their handlers have no part in it, and
no other step writes the instruction pointer. -/
def LeftToExits (vm : Vm σ) : List (Step σ) → Prop
  | [] => True
  | s :: rest => ((∀ c ∈ (VmM.step s vm).calls, Steady c.effects) ∧ Field.guestRip ∉ s.written)
    ∧ (VmM.step s vm).vm.LeftToExits rest

instance decidableLeftToExits (vm : Vm σ) : (steps : List (Step σ)) →
    Decidable (vm.LeftToExits steps)
  | [] => inferInstanceAs (Decidable True)
  | s :: rest =>
    have := decidableLeftToExits (VmM.step s vm).vm rest
    inferInstanceAs (Decidable ((_ ∧ _) ∧ _))

theorem LeftToExits.after {vm : Vm σ} {before later : List (Step σ)}
    (h : vm.LeftToExits (before ++ later)) : (vm.after before).LeftToExits later := by
  induction before generalizing vm with
  | nil => exact h
  | cons s rest ih => exact ih h.2

theorem rip_step {vm : Vm σ} {s : Step σ} {rest : List (Step σ)} (h : vm.LeftToExits (s :: rest)) :
    ((VmM.step s vm).vm.machine.vmcs.read .guestRip).toNat
      = ((vm.machine.vmcs.read .guestRip).toNat
        + if vm.advances s then vm.machine.stride else 0) % UInt64.size := by
  obtain ⟨⟨steady, hwritten⟩, -⟩ := h
  have hlt := (vm.machine.vmcs.read .guestRip).toNat_lt_size
  by_cases hexit : s.takesExit = true
  · obtain ⟨hadvanced, hstayed⟩ := VmM.step_of_steady hexit steady
    cases ha : vm.advances s with
    | true => exact (hadvanced ha).rip
    | false =>
      rw [(hstayed ha).rip, if_neg Bool.false_ne_true, Nat.add_zero, Nat.mod_eq_of_lt hlt]
  · have hno : ¬ vm.advances s = true := fun ha => hexit (claimed_of_advances ha).1
    rw [if_neg hno, VmM.read_step_of_not_written (Bool.eq_false_iff.mpr hexit) hwritten,
      Nat.add_zero, Nat.mod_eq_of_lt hlt]

theorem rip_after {vm : Vm σ} {steps : List (Step σ)} (h : vm.LeftToExits steps) :
    ((vm.after steps).machine.vmcs.read .guestRip).toNat
      = ((vm.machine.vmcs.read .guestRip).toNat + vm.travelled steps) % UInt64.size := by
  induction steps generalizing vm with
  | nil =>
    have hlt := (vm.machine.vmcs.read .guestRip).toNat_lt_size
    exact (Nat.mod_eq_of_lt hlt).symm
  | cons s rest ih =>
    rw [after_cons, ih h.2, rip_step h, travelled, Nat.mod_add_mod, Nat.add_assoc]

end Vm

/--
**The instruction pointer is accounted for.** If it is left to the exits of a run where the guest
goes on, an exit moves it by the length of the instruction, from 1 to 15 bytes, if it is an access
that handlers claim without having taken care of that; any other exit leaves it alone. Over the
whole run it has moved by the sum of these. The handlers that come with the virtualizers have no
part in it, and if none of the handlers has, no exit is disturbed.
-/
theorem instruction_pointer_accounted (vm : Vm σ) (steps : List (Step σ))
    (undisturbed : vm.LeftToExits steps) :
    (∀ before s later, steps = before ++ s :: later → s.takesExit = true →
        let now := vm.after before
        (now.advances s = true → Advanced s now.machine (VmM.step s now))
          ∧ (now.advances s = false → Stayed now.machine (VmM.step s now)))
      ∧ ((vm.after steps).machine.vmcs.read .guestRip).toNat
        = ((vm.machine.vmcs.read .guestRip).toNat + vm.travelled steps) % UInt64.size
      ∧ (∀ now : Vm σ, (∀ c, ∀ handler ∈ now.chain c, handler.Steady) →
        ∀ s, ∀ c ∈ (VmM.step s now).calls, Steady c.effects)
      ∧ (Handler.stateless (σ := σ) ControlRegister.hideVmxe).Steady
      ∧ (Handler.stateless (σ := σ) ControlRegister.rejectReserved).Steady
      ∧ (Handler.stateless (σ := σ) Interrupt.reinject).Steady := by
  refine ⟨?_, Vm.rip_after undisturbed, fun _ h => Vm.steady_calls h,
    ControlRegister.steady_hideVmxe, ControlRegister.steady_rejectReserved,
    Interrupt.steady_reinject⟩
  intro before s later e hexit now
  rw [e] at undisturbed
  exact VmM.step_of_steady hexit undisturbed.after.1.1

/-- The guest starts near the end of the address space. It writes CR4, once with a length that no
instruction has and once with reserved bits, takes an interrupt, reads CR3 and wraps around; nobody
claims its write of CR0. A length is set between the exits, and so is the copy of the instruction
pointer. -/
theorem instruction_pointer_accounted_wraps :
    let m : Machine :=
      { vmcs := (({} : Vmcs).write .exitReason 28).write .guestRip 0xfffffffffffffffe }
    let vm : Vm Script.Tally := (Vm.create m).1
    let grants := Script.accessHandler "grants" [.machine (.write .guestCr3 0x2000)] (.always true)
    let toCr4 : List (Field × UInt64) :=
      [(.exitQualification, 0x4), (.exitInstructionLength, 0x100000003)]
    let fromCr3 : List (Field × UInt64) :=
      [(.exitReason, 28), (.exitQualification, 0x13), (.exitInstructionLength, 15)]
    let before : List (Step Script.Tally) :=
      [.addAccessHandler .writeCr4 (.stateless ControlRegister.hideVmxe),
        .addAccessHandler .writeCr4 (.stateless ControlRegister.rejectReserved), .addReinjection,
        .addAccessHandler .readCr3 grants, .assign toCr4 [(.rip, 0x77)], .exit,
        .writeGpr 0 0x8000000000000000, .resolve, .assign [(.exitReason, 1)] [], .resolve,
        .assign fromCr3 []]
    let later : List (Step Script.Tally) := [.assign [(.exitQualification, 0x0)] [], .exit]
    let now := vm.after before
    vm.LeftToExits (before ++ .resolve :: later)
      ∧ now.advances .resolve = true ∧ Advanced .resolve now.machine (VmM.step .resolve now)
      ∧ vm.travelled (before ++ .resolve :: later) = 16
      ∧ ((vm.after (before ++ .resolve :: later)).machine.vmcs.read .guestRip).toNat = 14 := by
  intro m vm grants toCr4 fromCr3 before later now
  have undisturbed : vm.LeftToExits (before ++ .resolve :: later) := by decide
  obtain ⟨hexits, htotal, -⟩ := instruction_pointer_accounted vm _ undisturbed
  have hadvances : now.advances .resolve = true := by decide
  have htravelled : vm.travelled (before ++ .resolve :: later) = 16 := by decide
  rw [htotal, htravelled]
  exact ⟨undisturbed, hadvances, (hexits before .resolve later rfl rfl).1 hadvances, rfl, by decide⟩

end GuestExit
