import GuestExit.Proofs.Machine.Stale
import GuestExit.Proofs.Vm.Confinement
import GuestExit.Proofs.Vm.Frame
import GuestExit.Proofs.Vm.Life

/-!
# Two virtual CPUs side by side

To show that something cannot be observed, two virtual CPUs that differ in it are put through the
same steps. A `Comparison` says how the two may differ: in their machines, in their handlers, and
in what is called and done along the way. All the rest has to be equal. The only place where
such a difference could grow is a chain of handlers, so that is the only thing to be shown about
it: a dispatch down chains that are alike comes to the same (`dispatch`).

Everything between a chain and a run is the same for all comparisons, and is gone through here.
The virtualizers respect the comparison, hence all of taking an exit does, since that is
compositional; then every kind of step (`step_alike`), and a whole run (`run_alike`).
-/

namespace GuestExit

open ControlRegister (Trap)

variable {σ α β : Type}

/-- The virtualizer that handles the exits of a category. -/
def Category.route : Category → Route
  | .access _ => .controlRegister
  | .interrupt => .externalInterrupt

/-- A handler of the given category was called. -/
def Called.of : (c : Category) → Call σ c.Info → Called σ
  | .access t => .access t
  | .interrupt => .interrupt

/-- The handler that a step registers, if it does, with its category. -/
def Step.registered? [Inhabited σ] : Step σ → Option ((c : Category) × Handler σ c.Info)
  | .addAccessHandler t handler => some ⟨.access t, handler⟩
  | .addInterruptHandler handler => some ⟨.interrupt, handler⟩
  | .addReinjection => some ⟨.interrupt, .stateless Interrupt.reinject⟩
  | _ => none

theorem ControlRegister.PerTrap.ext_get {p q : PerTrap α} (h : ∀ t, p.get t = q.get t) : p = q := by
  cases p
  cases q
  simp only [mk.injEq]
  exact ⟨h .writeCr0, h .readCr3, h .writeCr3, h .writeCr4⟩

/-- A virtual CPU is its machine, its five chains, its records and its routes. -/
theorem Vm.ext_of_chain {vm vm' : Vm σ} (machine : vm.machine = vm'.machine)
    (chains : ∀ c, vm.chain c = vm'.chain c)
    (log : vm.controlRegister.log = vm'.controlRegister.log)
    (recording : vm.controlRegister.logging = vm'.controlRegister.logging)
    (counts : vm.interrupt.counts = vm'.interrupt.counts)
    (counting : vm.interrupt.logging = vm'.interrupt.logging) (routes : vm.routes = vm'.routes) :
    vm = vm' := by
  have hchains : vm.controlRegister.chains = vm'.controlRegister.chains :=
    ControlRegister.PerTrap.ext_get fun t => chains (.access t)
  have hhandlers : vm.interrupt.handlers = vm'.interrupt.handlers := chains .interrupt
  cases vm with | mk m v w r =>
  cases vm' with | mk m' v' w' r' =>
  cases v
  cases w
  cases v'
  cases w'
  dsimp only at *
  subst machine hchains log recording hhandlers counts counting routes
  rfl

/-- What a virtualizer tells when it is given up depends on its records and on its switch. -/
theorem ControlRegister.Virtualizer.retire_congr {v w : Virtualizer σ} (log : v.log = w.log)
    (recording : v.logging = w.logging) : v.retire = w.retire := by
  unfold retire dump
  rw [log, recording]

theorem Interrupt.Virtualizer.retire_congr {v w : Virtualizer σ} (counts : v.counts = w.counts)
    (counting : v.logging = w.logging) : v.retire = w.retire := by
  unfold retire dump
  rw [counts, counting]

theorem Machine.assign_eq_perform (m : Machine) (fields : List (Field × UInt64))
    (registers : List (Register × UInt64)) : m.assign fields registers
      = m.perform (fields.map (fun p => .write p.1 p.2) ++ registers.map fun p => .save p.1 p.2) := by
  have hfields : ∀ m : Machine, m.perform (fields.map fun p => .write p.1 p.2)
      = { m with vmcs := fields.foldl (fun s p => s.write p.1 p.2) m.vmcs } := by
    intro m
    induction fields generalizing m with
    | nil => rfl
    | cons p rest ih => exact ih _
  have hregisters : ∀ m : Machine, m.perform (registers.map fun p => .save p.1 p.2)
      = { m with saved := registers.foldl (fun s p => s.write p.1 p.2) m.saved } := by
    intro m
    induction registers generalizing m with
    | nil => rfl
    | cons p rest ih => exact ih _
  rw [Machine.perform_append, hfields, hregisters]
  rfl

/-- A way in which two virtual CPUs can be alike. -/
structure Comparison (σ : Type) where
  /-- The two machines are alike. -/
  Machines : Machine → Machine → Prop
  /-- The two chains of a category are alike. -/
  Chains : (c : Category) → Chain σ c.Info → Chain σ c.Info → Prop
  /-- What was called and done by the one is like what was called and done by the other. -/
  Deeds : List (Called σ) → List Effect → List (Called σ) → List Effect → Prop
  /-- Machines do not differ in more than stale copies, -/
  machine : ∀ {m m'}, Machines m m' → m.Alike m'
  /-- and not in more after the same has happened to both. -/
  perform : ∀ {m m'}, Machines m m' → ∀ effects, Machines (m.perform effects) (m'.perform effects)
  /-- What is done without calling a handler is the same. -/
  told : ∀ effects, Deeds [] effects [] effects
  /-- What is done in sequence is alike if each part is. -/
  append : ∀ {a b a' b' ea eb ea' eb'}, Deeds a ea a' ea' → Deeds b eb b' eb' →
    Deeds (a ++ b) (ea ++ eb) (a' ++ b') (ea' ++ eb')
  /-- An exit comes to the same, whichever of the two chains it goes down. -/
  dispatch : ∀ {c chain chain' m m'} (info : c.Info), Chains c chain chain' → Machines m m' →
    let d := chain.dispatch info m
    let d' := chain'.dispatch info m'
    d.value.claimed = d'.value.claimed ∧ d.value.info = d'.value.info
      ∧ Chains c d.value.chain d'.value.chain
      ∧ Machines (m.perform d.effects) (m'.perform d'.effects)
      ∧ Deeds (d.value.calls.map (.of c)) d.effects (d'.value.calls.map (.of c)) d'.effects

namespace Comparison

variable (K : Comparison σ)

/-- Two virtual CPUs that are alike: they differ in nothing that may not differ. -/
structure Vms (vm vm' : Vm σ) : Prop where
  machine : K.Machines vm.machine vm'.machine
  chains : ∀ c, K.Chains c (vm.chain c) (vm'.chain c)
  log : vm.controlRegister.log = vm'.controlRegister.log
  recording : vm.controlRegister.logging = vm'.controlRegister.logging
  counts : vm.interrupt.counts = vm'.interrupt.counts
  counting : vm.interrupt.logging = vm'.interrupt.logging
  routes : vm.routes = vm'.routes

/-- Two transitions that are alike: they have the same answer, and lead to virtual CPUs that are
alike by doing what is alike. -/
structure Transitions (t t' : Transition σ α) : Prop where
  value : t.value = t'.value
  vm : K.Vms t.vm t'.vm
  deeds : K.Deeds t.calls t.effects t'.calls t'.effects

/-- Work that does what is alike on virtual CPUs that are alike. -/
def Respects (x : VmM σ α) : Prop :=
  ∀ vm vm', K.Vms vm vm' → K.Transitions (x vm) (x vm')

variable {K}

namespace Vms

variable {vm vm' : Vm σ}

theorem vmcs (h : K.Vms vm vm') : vm.machine.vmcs = vm'.machine.vmcs :=
  (K.machine h.machine).vmcs

theorem withMachine (h : K.Vms vm vm') {m m' : Machine} (machine : K.Machines m m') :
    K.Vms { vm with machine := m } { vm' with machine := m' } :=
  { h with
    machine
    chains := fun c => by cases c <;> exact h.chains _ }

theorem dump (h : K.Vms vm vm') (which : Route) :
    (VmM.dump which vm).effects = (VmM.dump which vm').effects := by
  have haccesses : vm.controlRegister.dump = vm'.controlRegister.dump := by
    unfold ControlRegister.Virtualizer.dump
    rw [h.log]
  have hinterrupts : vm.interrupt.dump = vm'.interrupt.dump := by
    unfold Interrupt.Virtualizer.dump
    rw [h.counts]
  cases which with
  | controlRegister => simp [VmM.dump, VmM.bind_apply, haccesses]
  | externalInterrupt => simp [VmM.dump, VmM.bind_apply, hinterrupts]

theorem dumpAll (h : K.Vms vm vm') : vm.dump = vm'.dump := by
  unfold Vm.dump ControlRegister.Virtualizer.dump Interrupt.Virtualizer.dump
  rw [h.log, h.counts]

theorem setLogging (h : K.Vms vm vm') (which : Route) (on : Bool) :
    K.Vms (VmM.setLogging which on vm).vm (VmM.setLogging which on vm').vm := by
  cases which with
  | controlRegister =>
    exact { h with recording := rfl, chains := fun c => by cases c <;> exact h.chains _ }
  | externalInterrupt =>
    exact { h with counting := rfl, chains := fun c => by cases c <;> exact h.chains _ }

end Vms

theorem Transitions.told {t t' : Transition σ α} (value : t.value = t'.value) (vm : K.Vms t.vm t'.vm)
    (calls : t.calls = []) (calls' : t'.calls = []) (effects : t.effects = t'.effects) :
    K.Transitions t t' := by
  refine ⟨value, vm, ?_⟩
  rw [calls, calls', effects]
  exact K.told _

theorem Transitions.answer {x : VmM σ α} {vm vm' : Vm σ} (h : K.Transitions (x vm) (x vm'))
    (f : α → β) : K.Transitions ((x >>= fun a => pure (f a)) vm) ((x >>= fun a => pure (f a)) vm') :=
  ⟨congrArg f h.value, h.vm, K.append h.deeds (K.told [])⟩

theorem Respects.bind {x : VmM σ α} {f : α → VmM σ β} (hx : K.Respects x)
    (hf : ∀ a, K.Respects (f a)) : K.Respects (x >>= f) := by
  intro vm vm' h
  have hfirst := hx vm vm' h
  have hsecond := hf (x vm).value _ _ hfirst.vm
  rw [hfirst.value] at hsecond
  refine ⟨?_, ?_, ?_⟩
  · rw [VmM.value_bind, hfirst.value]
    exact hsecond.value
  · rw [VmM.vm_bind, hfirst.value]
    exact hsecond.vm
  · rw [VmM.calls_bind, VmM.effects_bind, hfirst.value]
    exact K.append hfirst.deeds hsecond.deeds

theorem respects_answer (a : α) : K.Respects (pure a) :=
  fun _ _ h => .told rfl h rfl rfl rfl

theorem compositional_respects : VmM.Compositional K.Respects where
  bind := Respects.bind
  answer := respects_answer
  look {_ f} hblind hf vm vm' h := by
    have hsame : f vm' = f vm := hblind _ _ h.vmcs.symm h.routes.symm
    have hgo := hf vm vm vm' h
    rw [VmM.bind_apply, VmM.bind_apply, VmM.get_apply, VmM.get_apply]
    dsimp only
    rw [hsame]
    exact hgo
  read {_ x} hx hvalue vm vm' h := by
    have hvm : ∀ vm : Vm σ, (VmM.onMachine x vm).vm = vm := by
      intro vm
      rw [VmM.onMachine_apply, ExitM.final, hx]
      rfl
    refine .told (hvalue _ _ h.vmcs) ?_ rfl rfl ?_
    · rw [hvm, hvm]
      exact h
    · rw [VmM.onMachine_apply, VmM.onMachine_apply, hx, hx]
  tell _ vm vm' h := .told rfl h rfl rfl rfl

/-- Blind work respects every comparison. -/
theorem respects_onMachine {x : ExitM α} (hx : x.Blind) : K.Respects (VmM.onMachine x) := by
  intro vm vm' h
  have hsame : x vm.machine = x vm'.machine := hx _ _ (K.machine h.machine)
  rw [VmM.onMachine_apply, VmM.onMachine_apply, ExitM.final, ExitM.final, hsame]
  exact .told rfl (h.withMachine (K.perform h.machine _)) rfl rfl rfl

/-! ## The virtualizers -/

/-- What a virtualizer does before and after its handlers makes no difference. -/
theorem deeds_between {calls calls' : List (Called σ)} {effects effects' : List Effect}
    (h : K.Deeds calls effects calls' effects') (before after : List Effect) :
    K.Deeds calls (before ++ (effects ++ after)) calls' (before ++ (effects' ++ after)) := by
  have hall := K.append (K.told before) (K.append h (K.told after))
  rwa [List.nil_append, List.append_nil, List.nil_append, List.append_nil] at hall

/-- The chains stay alike if that of one trap is replaced by others that are alike. -/
theorem chains_set {vm vm' : Vm σ} (h : K.Vms vm vm') {t : Trap}
    {chain chain' : Chain σ ControlRegister.Descriptor} (hchain : K.Chains (.access t) chain chain')
    (u : Trap) : K.Chains (.access u) ((vm.controlRegister.chains.set t chain).get u)
      ((vm'.controlRegister.chains.set t chain').get u) := by
  rw [ControlRegister.PerTrap.get_set, ControlRegister.PerTrap.get_set]
  split
  · next e =>
    subst e
    exact hchain
  · exact h.chains (.access u)

/-- An access goes down the two chains of its trap to the same end. -/
theorem dispatch_access {vm vm' : Vm σ} (h : K.Vms vm vm') (t : Trap)
    (info : ControlRegister.Descriptor) :
    let d := (vm.controlRegister.chains.get t).dispatch info vm.machine
    let d' := (vm'.controlRegister.chains.get t).dispatch info vm'.machine
    d.value.claimed = d'.value.claimed ∧ d.value.info = d'.value.info
      ∧ K.Chains (.access t) d.value.chain d'.value.chain
      ∧ K.Machines (vm.machine.perform d.effects) (vm'.machine.perform d'.effects)
      ∧ K.Deeds (d.value.calls.map (.access t)) d.effects (d'.value.calls.map (.access t))
        d'.effects :=
  K.dispatch (c := .access t) info (h.chains (.access t)) h.machine

theorem dispatch_interrupt {vm vm' : Vm σ} (h : K.Vms vm vm') (info : Interrupt.Descriptor) :
    let d := vm.interrupt.handlers.dispatch info vm.machine
    let d' := vm'.interrupt.handlers.dispatch info vm'.machine
    d.value.claimed = d'.value.claimed ∧ d.value.info = d'.value.info
      ∧ K.Chains .interrupt d.value.chain d'.value.chain
      ∧ K.Machines (vm.machine.perform d.effects) (vm'.machine.perform d'.effects)
      ∧ K.Deeds (d.value.calls.map .interrupt) d.effects (d'.value.calls.map .interrupt) d'.effects :=
  K.dispatch (c := .interrupt) info (h.chains .interrupt) h.machine

theorem respects_access : K.Respects (VmM.handle .controlRegister) := by
  intro vm vm' h
  rw [VmM.handle_controlRegister, VmM.handle_controlRegister]
  cases hq : Qualification.decode (vm.machine.vmcs.read .exitQualification) with
  | error e =>
    have hq' : Qualification.decode (vm'.machine.vmcs.read .exitQualification) = .error e := by
      rw [← h.vmcs]
      exact hq
    rw [ControlRegister.Virtualizer.handle_of_invalid hq,
      ControlRegister.Virtualizer.handle_of_invalid hq']
    exact .told rfl h rfl rfl rfl
  | ok q =>
    have hq' : Qualification.decode (vm'.machine.vmcs.read .exitQualification) = .ok q := by
      rw [← h.vmcs]
      exact hq
    cases ht : Trap.ofAccess? q.access with
    | none =>
      rw [ControlRegister.Virtualizer.handle_of_unsupported hq ht,
        ControlRegister.Virtualizer.handle_of_unsupported hq' ht]
      exact .told rfl h rfl rfl rfl
    | some t =>
      have hdefaults := t.blind_defaults q.gpr _ _ (K.machine h.machine)
      rw [ControlRegister.Virtualizer.handle_of_trap hq ht,
        ControlRegister.Virtualizer.handle_of_trap hq' ht, ← hdefaults]
      obtain ⟨hclaimed, hinfo, hchain, hmachine, hdeeds⟩ :=
        dispatch_access h t (t.defaults q.gpr vm.machine).value
      -- what the virtualizer adds depends on the descriptor and the machine that the handlers left
      have hcarry := fun info => t.blind_carryOut q.gpr info _ _ (K.machine hmachine)
      dsimp only
      rw [← hclaimed, ← hinfo, ← hcarry]
      refine ⟨rfl, ?_, ?_⟩
      · refine
          { machine := ?_
            chains := fun c => ?_
            log := ?_
            recording := h.recording
            counts := h.counts
            counting := h.counting
            routes := h.routes }
        · simp only [Machine.perform_cons, Machine.apply_report, Machine.perform_append]
          exact K.perform hmachine _
        · cases c with
          | interrupt => exact h.chains .interrupt
          | access u => exact chains_set h hchain u
        · dsimp only [ControlRegister.Virtualizer.conclude]
          rw [h.recording, h.log, hinfo]
      · rw [List.map_map, List.map_map]
        exact deeds_between hdeeds [.report (.accessed q.access q.gpr)] _

theorem respects_interrupt : K.Respects (VmM.handle .externalInterrupt) := by
  intro vm vm' h
  have hvector := Interrupt.blind_acknowledged _ _ (K.machine h.machine)
  rw [VmM.handle_externalInterrupt, VmM.handle_externalInterrupt, Interrupt.Virtualizer.handle_eq,
    Interrupt.Virtualizer.handle_eq, ← hvector]
  obtain ⟨hclaimed, hinfo, hchain, hmachine, hdeeds⟩ :=
    dispatch_interrupt h ⟨(Interrupt.acknowledged vm.machine).value⟩
  dsimp only
  rw [← hclaimed]
  have hleft : vm.machine.perform (Interrupt.acknowledged vm.machine).effects = vm.machine :=
    Interrupt.final_acknowledged _
  have hleft' : vm'.machine.perform (Interrupt.acknowledged vm.machine).effects = vm'.machine := by
    rw [hvector]
    exact Interrupt.final_acknowledged _
  refine ⟨rfl, ?_, deeds_between hdeeds _ _⟩
  refine
    { machine := ?_
      chains := fun c => ?_
      log := h.log
      recording := h.recording
      counts := ?_
      counting := h.counting
      routes := h.routes }
  · simp only [Machine.perform_append, hleft, hleft']
    exact K.perform hmachine _
  · cases c with
    | interrupt => exact hchain
    | access u => exact h.chains (.access u)
  · dsimp only [Interrupt.Virtualizer.conclude]
    rw [h.counting, h.counts]

theorem respects_handle (route : Route) : K.Respects (VmM.handle route) := by
  cases route with
  | controlRegister => exact respects_access
  | externalInterrupt => exact respects_interrupt

/-! ## Steps -/

theorem respects_exit : K.Respects VmM.exit := by
  intro vm vm' h
  have hresolve := compositional_respects.resolve respects_handle vm vm' h
  cases hflow : (VmM.resolve vm).value with
  | resume =>
    have hflow' : (VmM.resolve vm').value = .resume := hresolve.value.symm.trans hflow
    rw [VmM.exit_of_resume hflow, VmM.exit_of_resume hflow']
    exact ⟨rfl, hresolve.vm, hresolve.deeds⟩
  | stop =>
    have hflow' : (VmM.resolve vm').value = .stop := hresolve.value.symm.trans hflow
    have hdeeds := K.append hresolve.deeds (K.told ((VmM.resolve vm).vm.dump.map .report))
    rw [List.append_nil, List.append_nil] at hdeeds
    rw [VmM.exit_of_stop hflow, VmM.exit_of_stop hflow', ← hresolve.vm.dumpAll]
    exact ⟨rfl, (hresolve.vm.setLogging .controlRegister false).setLogging .externalInterrupt false,
      hdeeds⟩

theorem respects_dump (which : Route) : K.Respects (VmM.dump which) := by
  intro vm vm' h
  have hleft : ∀ vm : Vm σ, (VmM.dump which vm).vm = vm ∧ (VmM.dump which vm).calls = [] := by
    intro vm
    cases which <;> exact ⟨rfl, rfl⟩
  obtain ⟨hvm, hcalls⟩ := hleft vm
  obtain ⟨hvm', hcalls'⟩ := hleft vm'
  refine .told rfl ?_ hcalls hcalls' (h.dump which)
  rw [hvm, hvm']
  exact h

/-- Both virtual CPUs get a new virtualizer, if it may have no handlers in either. -/
theorem replace_alike {vm vm' : Vm σ} (h : K.Vms vm vm') {which : Route}
    (empty : ∀ c : Category, c.route = which → K.Chains c [] []) :
    K.Transitions (VmM.replace which vm) (VmM.replace which vm') := by
  have haccesses := ControlRegister.Virtualizer.retire_congr h.log h.recording
  have hinterrupts := Interrupt.Virtualizer.retire_congr h.counts h.counting
  cases which with
  | controlRegister =>
    refine .told rfl { h with log := rfl, recording := rfl, chains := fun c => ?_ } rfl rfl ?_
    · cases c with
      | interrupt => exact h.chains .interrupt
      | access t =>
        have hnew : ({} : ControlRegister.Virtualizer σ).chains.get t = [] :=
          ControlRegister.PerTrap.get_replicate [] t
        show K.Chains (.access t) (({} : ControlRegister.Virtualizer σ).chains.get t)
          (({} : ControlRegister.Virtualizer σ).chains.get t)
        rw [hnew]
        exact empty (.access t) rfl
    · simp [VmM.replace, VmM.bind_apply, haccesses]
  | externalInterrupt =>
    refine .told rfl { h with counts := rfl, counting := rfl, chains := fun c => ?_ } rfl rfl ?_
    · cases c with
      | interrupt => exact empty .interrupt rfl
      | access t => exact h.chains (.access t)
    · simp [VmM.replace, VmM.bind_apply, hinterrupts]

variable [Inhabited σ]

variable (K) in
/-- A step that keeps chains alike: what it registers may be put in front of both, and a new
virtualizer may take the place of both. -/
structure Admits (s : Step σ) : Prop where
  registered : ∀ c handler, s.registered? = some ⟨c, handler⟩ → ∀ chain chain',
    K.Chains c chain chain' → K.Chains c (chain.register handler) (chain'.register handler)
  replaced : ∀ c, s.replaces = some c.route → K.Chains c [] []

/-- **One step comes to the same** on virtual CPUs that are alike. -/
theorem step_alike {vm vm' : Vm σ} (h : K.Vms vm vm') {s : Step σ} (admitted : K.Admits s) :
    K.Transitions (VmM.step s vm) (VmM.step s vm') := by
  have hwork : ∀ x : ExitM Unit, x.Blind → K.Transitions (VmM.work x vm) (VmM.work x vm') :=
    fun x hx => (respects_onMachine hx vm vm' h).answer _
  have hP := compositional_respects (K := K)
  cases s with
  | assign fields registers =>
    have hmachine : K.Machines (vm.machine.assign fields registers)
        (vm'.machine.assign fields registers) := by
      rw [Machine.assign_eq_perform, Machine.assign_eq_perform]
      exact K.perform h.machine _
    exact .told rfl (h.withMachine hmachine) rfl rfl rfl
  | addAccessHandler t handler =>
    have hchain := admitted.registered (.access t) handler rfl _ _ (h.chains (.access t))
    refine .told rfl { h with chains := fun c => ?_ } rfl rfl rfl
    cases c with
    | interrupt => exact h.chains .interrupt
    | access u => exact chains_set h hchain u
  | addInterruptHandler handler =>
    have hchain := admitted.registered .interrupt handler rfl _ _ (h.chains .interrupt)
    refine .told rfl { h with chains := fun c => ?_ } rfl rfl rfl
    cases c with
    | interrupt => exact hchain
    | access u => exact h.chains (.access u)
  | addReinjection =>
    have hchain := admitted.registered .interrupt _ rfl _ _ (h.chains .interrupt)
    refine .told rfl { h with chains := fun c => ?_ } rfl rfl rfl
    cases c with
    | interrupt => exact hchain
    | access u => exact h.chains (.access u)
  | trapCr0Writes mask shadow => exact hwork _ (ControlRegister.blind_trapCr0Writes mask shadow)
  | trapCr4Writes mask shadow => exact hwork _ (ControlRegister.blind_trapCr4Writes mask shadow)
  | trapCr3Reads => exact hwork _ ControlRegister.blind_trapCr3Reads
  | trapCr3Writes => exact hwork _ ControlRegister.blind_trapCr3Writes
  | trapInterrupts => exact hwork _ Interrupt.blind_trapInterrupts
  | untrapInterrupts => exact hwork _ Interrupt.blind_untrapInterrupts
  | setLogging which on =>
    have hvm := h.setLogging which on
    cases which <;> exact .told rfl hvm rfl rfl rfl
  | setBits f bits => exact hwork _ (ExitM.blind_setBits f bits)
  | clearBits f bits => exact hwork _ (ExitM.blind_clearBits f bits)
  | readGpr g =>
    exact (respects_onMachine (ExitM.blind_readGpr g) vm vm' h).answer _
  | writeGpr g v => exact hwork _ (ExitM.blind_writeGpr g v)
  | advanceRip => exact hwork _ ExitM.blind_advanceRip
  | injectInterrupt vector => exact hwork _ (ExitM.blind_injectInterrupt vector)
  | injectFault code => exact hwork _ (ExitM.blind_injectFault code)
  | handleExit reason =>
    exact (hP.handleExit respects_handle reason vm vm' h).answer _
  | handle which => exact (respects_handle which vm vm' h).answer _
  | resolve => exact (hP.resolve respects_handle vm vm' h).answer _
  | exit => exact (respects_exit vm vm' h).answer _
  | dump which => exact (respects_dump which vm vm' h).answer _
  | dumpAll =>
    have hstep : ∀ vm : Vm σ, VmM.step .dumpAll vm = ⟨.done, vm, [], vm.dump.map .report⟩ :=
      fun vm => by simp [VmM.step, VmM.bind_apply]
    rw [hstep, hstep, h.dumpAll]
    exact .told rfl h rfl rfl rfl
  | replace which =>
    have hreplace : K.Transitions (VmM.replace which vm) (VmM.replace which vm') :=
      replace_alike h fun c hc => admitted.replaced c (by rw [hc]; rfl)
    exact hreplace.answer _

/-- **A whole run comes to the same**, step by step. -/
theorem run_alike {vm vm' : Vm σ} (h : K.Vms vm vm') {steps : List (Step σ)}
    (admitted : ∀ s ∈ steps, K.Admits s) :
    List.Forall₂ K.Transitions (vm.run steps) (vm'.run steps)
      ∧ K.Vms (vm.after steps) (vm'.after steps) := by
  induction steps generalizing vm vm' with
  | nil => exact ⟨.nil, h⟩
  | cons s rest ih =>
    have hstep := step_alike h (admitted s List.mem_cons_self)
    obtain ⟨hrest, hafter⟩ := ih hstep.vm fun s' hs' => admitted s' (List.mem_cons_of_mem s hs')
    exact ⟨.cons hstep hrest, hafter⟩

end Comparison

end GuestExit
