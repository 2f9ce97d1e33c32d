import GuestExit.Proofs.Vm.Frame
import GuestExit.Proofs.Vm.Life
import GuestExit.Script.Handler
import Mathlib.Data.List.Forall2

/-!
# Recording is invisible

Whether a virtualizer records its exits, and what it has recorded so far, is nobody's
business but that of whoever reads the records. The guest must not be able to tell, and
neither must the handlers nor the hypervisor's decisions.

The argument is an erasure. `unrecorded` takes everything from a virtual CPU that has been
recorded, and work is `Oblivious` if it commutes with that. Handling an exit is
(`oblivious_handle`), since a virtualizer only ever adds to its records and never looks at
them, and the property is compositional. Some kinds of steps are not, as
they put the records into the log; but they do so last of all (`step_telling`), and apart from that
they are. An exit is among them only if it is fatal. Only switching is left then, which the erasure
does not see.

So two runs that differ in records and switching alone can be laid side by side and compared step by
step (`recording_is_invisible`), although they need not have the same number of steps.
-/

namespace GuestExit

variable {σ α β : Type}

/-! ## What is left without the records -/

/-- The virtualizer as if it had never recorded anything. -/
def ControlRegister.Virtualizer.unrecorded (v : Virtualizer σ) : Virtualizer σ :=
  { chains := v.chains }

/-- The virtualizer as if it had never counted anything. -/
def Interrupt.Virtualizer.unrecorded (v : Virtualizer σ) : Virtualizer σ :=
  { handlers := v.handlers }

/-- The virtual CPU as if it had never recorded anything: the machine, the handlers with their
private states and the routes. -/
def Vm.unrecorded (vm : Vm σ) : Vm σ :=
  { vm with
    controlRegister := vm.controlRegister.unrecorded
    interrupt := vm.interrupt.unrecorded }

/-- A transition with nothing recorded in the virtual CPU it leads to. -/
def Transition.unrecorded (t : Transition σ α) : Transition σ α :=
  { t with vm := t.vm.unrecorded }

/-- A virtualizer that never recorded anything answers the same, and remembers nothing. -/
theorem ControlRegister.Virtualizer.handle_unrecorded (v : Virtualizer σ) (m : Machine) :
    v.unrecorded.handle m =
      let o := v.handle m
      ⟨{ o.value with virtualizer := o.value.virtualizer.unrecorded }, o.effects⟩ := by
  cases hq : Qualification.decode (m.vmcs.read .exitQualification) with
  | error e =>
    rw [handle_of_invalid hq, handle_of_invalid hq]
    rfl
  | ok q =>
    cases ht : Trap.ofAccess? q.access with
    | none =>
      rw [handle_of_unsupported hq ht, handle_of_unsupported hq ht]
      rfl
    | some t =>
      rw [handle_of_trap hq ht, handle_of_trap hq ht]
      rfl

theorem Interrupt.Virtualizer.handle_unrecorded (v : Virtualizer σ) (m : Machine) :
    v.unrecorded.handle m =
      let o := v.handle m
      ⟨{ o.value with virtualizer := o.value.virtualizer.unrecorded }, o.effects⟩ := by
  rw [handle_eq, handle_eq]
  rfl

namespace VmM

/-- Work that does not see what has been recorded: without it, it does the same and leaves the
same. -/
def Oblivious (x : VmM σ α) : Prop :=
  ∀ vm, x vm.unrecorded = (x vm).unrecorded

theorem oblivious_modify {g : Vm σ → Vm σ} (h : ∀ vm, g vm.unrecorded = (g vm).unrecorded) :
    Oblivious (modify g) := by
  intro vm
  rw [modify_apply, modify_apply, h]
  rfl

/-- **Two pieces of work in sequence do not see what neither of them sees.** -/
theorem Oblivious.bind {x : VmM σ α} {f : α → VmM σ β} (hx : Oblivious x)
    (hf : ∀ a, Oblivious (f a)) : Oblivious (x >>= f) := by
  intro vm
  rw [bind_apply, bind_apply, hx vm]
  dsimp only [Transition.unrecorded]
  rw [hf]
  rfl

theorem oblivious_answer (a : α) : Oblivious (pure a : VmM σ α) := fun _ => rfl

/-- Neither looking at the machine and the routes nor telling the log something sees what has been
recorded. -/
theorem compositional_oblivious : Compositional (Oblivious (σ := σ)) where
  bind := Oblivious.bind
  answer := oblivious_answer
  look {_ f} hblind hf vm := by
    have hsame : f vm.unrecorded = f vm := hblind _ _ rfl rfl
    rw [bind_apply, bind_apply, get_apply, get_apply]
    dsimp only
    rw [hsame, hf]
    rfl
  read _ _ _ := rfl
  tell _ _ := rfl

/-- **Handling an exit does not see what has been recorded.** -/
theorem oblivious_handle (route : Route) : Oblivious (handle route : VmM σ _) := by
  intro vm
  cases route with
  | controlRegister =>
    have h : vm.unrecorded.controlRegister.handle vm.unrecorded.machine = _ :=
      vm.controlRegister.handle_unrecorded vm.machine
    rw [handle_controlRegister, handle_controlRegister, h]
    rfl
  | externalInterrupt =>
    have h : vm.unrecorded.interrupt.handle vm.unrecorded.machine = _ :=
      vm.interrupt.handle_unrecorded vm.machine
    rw [handle_externalInterrupt, handle_externalInterrupt, h]
    rfl

end VmM

/-! ## Steps -/

/-- Whether a step does nothing but switch recording on or off. -/
def Step.switches : Step σ → Bool
  | .setLogging _ _ => true
  | _ => false

/-- Whether a step with the given answer may have put records into the log. An exit does only if it
is fatal. -/
def Step.dumps : Step σ → Answer → Bool
  | .exit, .halted (.ok ()) => false
  | .exit, _ | .dump _, _ | .dumpAll, _ | .replace _, _ => true
  | _, _ => false

/-! ## Putting records into the log -/

/-- Notices that are lines of records, and nothing else. -/
def RecordsOnly (ns : List Notice) : Prop :=
  ∃ lines : List String, ns = lines.map .recorded

theorem recordsOnly_nil : RecordsOnly [] := ⟨[], rfl⟩

theorem recordsOnly_dump : ∀ written, RecordsOnly (Notice.dump written)
  | .complete text => ⟨Text.linesOf text, rfl⟩
  | .refused _ => recordsOnly_nil

theorem RecordsOnly.append {a b : List Notice} (ha : RecordsOnly a) (hb : RecordsOnly b) :
    RecordsOnly (a ++ b) := by
  obtain ⟨la, rfl⟩ := ha
  obtain ⟨lb, rfl⟩ := hb
  exact ⟨la ++ lb, (List.map_append ..).symm⟩

namespace Vm

theorem recordsOnly_dump (vm : Vm σ) : RecordsOnly vm.dump :=
  (GuestExit.recordsOnly_dump _).append (GuestExit.recordsOnly_dump _)

theorem recordsOnly_retire_controlRegister (vm : Vm σ) : RecordsOnly vm.controlRegister.retire := by
  unfold ControlRegister.Virtualizer.retire
  split
  · exact GuestExit.recordsOnly_dump _
  · exact recordsOnly_nil

theorem recordsOnly_retire_interrupt (vm : Vm σ) : RecordsOnly vm.interrupt.retire := by
  unfold Interrupt.Virtualizer.retire
  split
  · exact GuestExit.recordsOnly_dump _
  · exact recordsOnly_nil

theorem recordsOnly_retire (vm : Vm σ) : RecordsOnly vm.retire :=
  vm.recordsOnly_retire_controlRegister.append vm.recordsOnly_retire_interrupt

end Vm

namespace VmM

/-- Putting a new virtualizer in place of an old one, apart from the records of the old one. -/
def install : Route → VmM σ Unit
  | .controlRegister => do
    tell (({} : Routes).construct .controlRegister).told
    modify fun vm => { vm with controlRegister := {} }
  | .externalInterrupt => do
    tell (({} : Routes).construct .externalInterrupt).told
    modify fun vm => { vm with interrupt := {} }

/-- Taking an exit and halting if it is fatal, apart from the records. -/
def halt : VmM σ (Except Halt Unit) := do
  match ← resolve with
  | .resume => return .ok ()
  | .stop =>
    modify Vm.silenced
    return .error .unrecoverable

theorem oblivious_install (which : Route) : Oblivious (install which : VmM σ Unit) := by
  cases which <;> exact fun _ => rfl

theorem oblivious_halt : Oblivious (halt : VmM σ _) := by
  refine (compositional_oblivious.resolve oblivious_handle).bind fun flow => ?_
  cases flow with
  | resume => exact oblivious_answer _
  | stop => exact (oblivious_modify fun _ => rfl).bind fun _ => oblivious_answer _

end VmM

/-- The same transition, with the log told more at its end. -/
def Transition.telling (t : Transition σ α) (ns : List Notice) : Transition σ α :=
  { t with effects := t.effects ++ ns.map .report }

@[simp] theorem Transition.telling_nil (t : Transition σ α) : t.telling [] = t := by
  simp [telling]

namespace VmM

/-- Only a fatal exit tells records. -/
theorem exit_telling (vm : Vm σ) :
    ∃ ns, RecordsOnly ns ∧ ((exit vm).value = .ok () → ns = [])
      ∧ exit vm = (halt vm).telling ns := by
  cases h : (resolve vm).value with
  | resume =>
    refine ⟨[], recordsOnly_nil, fun _ => rfl, ?_⟩
    simp [exit_of_resume h, halt, bind_apply, h]
  | stop =>
    refine ⟨_, (resolve vm).vm.recordsOnly_dump, fun hok => ?_, ?_⟩
    · rw [exit_of_stop h] at hok
      contradiction
    · simp [exit_of_stop h, halt, bind_apply, h, Transition.telling]

theorem replace_telling (which : Route) (vm : Vm σ) :
    ∃ ns, RecordsOnly ns ∧ replace which vm = (install which vm).telling ns := by
  cases which with
  | controlRegister =>
    exact ⟨_, vm.recordsOnly_retire_controlRegister, by
      simp [replace, install, bind_apply, Transition.telling]⟩
  | externalInterrupt =>
    exact ⟨_, vm.recordsOnly_retire_interrupt, by
      simp [replace, install, bind_apply, Transition.telling]⟩

theorem dump_telling (which : Route) (vm : Vm σ) :
    ∃ ns, RecordsOnly ns ∧ dump which vm = Transition.telling ⟨(), vm, [], []⟩ ns := by
  cases which with
  | controlRegister => exact ⟨_, recordsOnly_dump _, rfl⟩
  | externalInterrupt => exact ⟨_, recordsOnly_dump _, rfl⟩

theorem telling_answer {x y : VmM σ α} {vm : Vm σ} {ns : List Notice} (f : α → β)
    (h : x vm = (y vm).telling ns) :
    (x >>= fun a => pure (f a)) vm = ((y >>= fun a => pure (f a)) vm).telling ns := by
  simp [bind_apply, h, Transition.telling]

variable [Inhabited σ]

/-- A step apart from the records that it may put into the log. -/
def stepApart : Step σ → VmM σ Answer
  | .exit => return .halted (← halt)
  | .dump _ | .dumpAll => return .done
  | .replace which => do
    install which
    return .done
  | s => step s

/-- **Apart from the records put into the log, no step sees what has been recorded**, but one that
switches recording. -/
theorem oblivious_stepApart {s : Step σ} (h : s.switches = false) : Oblivious (stepApart s) := by
  have hP := compositional_oblivious (σ := σ)
  cases s with
  | exit => exact oblivious_halt.bind fun _ => oblivious_answer _
  | dump | dumpAll => exact oblivious_answer _
  | replace which => exact (oblivious_install which).bind fun _ => oblivious_answer _
  | handleExit reason =>
    exact (hP.handleExit oblivious_handle reason).bind fun _ => oblivious_answer _
  | handle which => exact (oblivious_handle which).bind fun _ => oblivious_answer _
  | resolve => exact (hP.resolve oblivious_handle).bind fun _ => oblivious_answer _
  | setLogging => contradiction
  | _ => exact fun _ => rfl

/-- A step tells records at its end, if it tells any, and it tells none unless it dumps. -/
theorem step_telling (s : Step σ) (vm : Vm σ) :
    ∃ ns, RecordsOnly ns ∧ (s.dumps (step s vm).value = false → ns = [])
      ∧ step s vm = (stepApart s vm).telling ns := by
  cases s with
  | exit =>
    obtain ⟨ns, hns, hresumes, htelling⟩ := exit_telling vm
    have hanswer : (step .exit vm).value = .halted (exit vm).value := rfl
    refine ⟨ns, hns, fun hd => hresumes ?_, telling_answer _ htelling⟩
    rw [hanswer] at hd
    cases h : (exit vm).value with
    | ok => rfl
    | error =>
      rw [h] at hd
      contradiction
  | dump which =>
    obtain ⟨ns, hns, htelling⟩ := dump_telling which vm
    exact ⟨ns, hns, fun hd => Bool.noConfusion hd, telling_answer (y := pure ()) _ htelling⟩
  | dumpAll =>
    refine ⟨_, vm.recordsOnly_dump, fun hd => Bool.noConfusion hd, ?_⟩
    simp [step, stepApart, bind_apply, Transition.telling]
  | replace which =>
    obtain ⟨ns, hns, htelling⟩ := replace_telling which vm
    exact ⟨ns, hns, fun hd => Bool.noConfusion hd, telling_answer _ htelling⟩
  | _ => exact ⟨[], recordsOnly_nil, fun _ => rfl, (Transition.telling_nil _).symm⟩

end VmM

/-! ## Two runs -/

/-- What two transitions have in common if they differ in nothing but what has been recorded. -/
structure Transition.Alike (s : Step σ) (t t' : Transition σ Answer) : Prop where
  /-- They have the same answer. -/
  value : t.value = t'.value
  /-- The same handlers are called, in the same states, on the same machines with the same
  descriptors, and react the same. -/
  calls : t.calls = t'.calls
  /-- They leave the same machine, the same private states of handlers and the same routes. -/
  vm : t.vm.unrecorded = t'.vm.unrecorded
  /-- The same is done to the guest, in the same order. -/
  changes : changes t.effects = changes t'.effects
  /-- Unless the step puts records into the log, the log is told the same, line by line. So it is
  when the guest goes on after an exit. -/
  effects : s.dumps t.value = false → t.effects = t'.effects
  /-- If it does, the log is told the same up to them. -/
  dumped : ∃ common ns ns', RecordsOnly ns ∧ RecordsOnly ns'
    ∧ t.effects = common ++ ns.map .report ∧ t'.effects = common ++ ns'.map .report

namespace Vm

variable [Inhabited σ]

/-- The steps of a run with what came of them, but for those that switch recording. -/
def observed (vm : Vm σ) (steps : List (Step σ)) : List (Step σ × Transition σ Answer) :=
  (steps.zip (vm.run steps)).filter fun p => !p.1.switches

@[simp] theorem observed_nil (vm : Vm σ) : vm.observed [] = [] := rfl

theorem observed_cons_of_switches {s : Step σ} (h : s.switches = true) (vm : Vm σ)
    (rest : List (Step σ)) : vm.observed (s :: rest) = (VmM.step s vm).vm.observed rest := by
  simp [observed, run_cons, h]

theorem observed_cons {s : Step σ} (h : s.switches = false) (vm : Vm σ)
    (rest : List (Step σ)) :
    vm.observed (s :: rest) = (s, VmM.step s vm) :: (VmM.step s vm).vm.observed rest := by
  simp [observed, run_cons, h]

theorem unrecorded_switched {s : Step σ} (h : s.switches = true) (vm : Vm σ) :
    (VmM.step s vm).vm.unrecorded = vm.unrecorded := by
  cases s with
  | setLogging which on => cases which <;> rfl
  | _ => contradiction

/-- **A step does the same to two virtual CPUs** that differ in nothing but what they have
recorded. -/
theorem step_alike {s : Step σ} (hs : s.switches = false) {vm vm' : Vm σ}
    (h : vm.unrecorded = vm'.unrecorded) : (VmM.step s vm).Alike s (VmM.step s vm') := by
  have hapart : (VmM.stepApart s vm).unrecorded = (VmM.stepApart s vm').unrecorded := by
    rw [← VmM.oblivious_stepApart hs vm, ← VmM.oblivious_stepApart hs vm', h]
  obtain ⟨ns, hns, hnone, hstep⟩ := VmM.step_telling s vm
  obtain ⟨ns', hns', hnone', hstep'⟩ := VmM.step_telling s vm'
  obtain ⟨hvalue, hvm, hcalls, heffects⟩ := Transition.mk.inj hapart
  have hanswer : (VmM.step s vm).value = (VmM.step s vm').value := by
    rw [hstep, hstep']
    exact hvalue
  refine
    { value := hanswer
      calls := ?_
      vm := ?_
      changes := ?_
      effects := fun hd => ?_
      dumped := ⟨(VmM.stepApart s vm).effects, ns, ns', hns, hns', ?_, ?_⟩ }
  · rw [hstep, hstep']
    exact hcalls
  · rw [hstep, hstep']
    exact hvm
  · rw [hstep, hstep']
    simp [Transition.telling, heffects]
  · rw [hstep, hstep', hnone hd, hnone' (hanswer ▸ hd), Transition.telling_nil,
      Transition.telling_nil]
    exact heffects
  · rw [hstep]
    rfl
  · rw [hstep', heffects]
    rfl

/-- Steps that switch recording are not observed, and change nothing that is. -/
theorem observed_switches_append {before : List (Step σ)} (h : ∀ s ∈ before, s.switches = true)
    (vm : Vm σ) (rest : List (Step σ)) :
    vm.observed (before ++ rest) = (vm.after before).observed rest
      ∧ (vm.after before).unrecorded = vm.unrecorded := by
  induction before generalizing vm with
  | nil => exact ⟨rfl, rfl⟩
  | cons s before ih =>
    have hs := h s List.mem_cons_self
    obtain ⟨hobserved, hleft⟩ :=
      ih (fun s' hs' => h s' (List.mem_cons_of_mem s hs')) (VmM.step s vm).vm
    refine ⟨?_, ?_⟩
    · rw [List.cons_append, observed_cons_of_switches hs, hobserved, after_cons]
    · rw [after_cons, hleft, unrecorded_switched hs]

/-- Two runs with the same steps, up to switching, come to the same. -/
theorem observed_alike {vm vm' : Vm σ} {steps steps' : List (Step σ)}
    (start : vm.unrecorded = vm'.unrecorded)
    (same : steps.filter (fun s => !s.switches) = steps'.filter fun s => !s.switches) :
    List.Forall₂ (fun p p' => p.1 = p'.1 ∧ p.2.Alike p.1 p'.2)
        (vm.observed steps) (vm'.observed steps')
      ∧ (vm.after steps).unrecorded = (vm'.after steps').unrecorded := by
  induction steps generalizing vm vm' steps' with
  | nil =>
    -- all that is left of the other run is switching
    have hswitches : ∀ s ∈ steps', s.switches = true := by
      simpa using List.filter_eq_nil_iff.mp same.symm
    obtain ⟨hobserved, hleft⟩ := vm'.observed_switches_append hswitches []
    rw [List.append_nil] at hobserved
    rw [hobserved]
    exact ⟨.nil, start.trans hleft.symm⟩
  | cons s rest ih =>
    cases hs : s.switches with
    | true =>
      rw [observed_cons_of_switches hs, after_cons]
      refine ih ((unrecorded_switched hs vm).trans start) ?_
      rw [← same, List.filter_cons_of_neg (by simp [hs])]
    | false =>
      -- the other run takes the same step after some switching
      rw [List.filter_cons_of_pos (by simp [hs])] at same
      obtain ⟨before, rest', rfl, hbefore, -, hrest⟩ := List.filter_eq_cons_iff.mp same.symm
      have hswitches : ∀ s' ∈ before, s'.switches = true := by simpa using hbefore
      obtain ⟨hobserved, hleft⟩ := vm'.observed_switches_append hswitches (s :: rest')
      have halike := step_alike hs (start.trans hleft.symm)
      obtain ⟨hlater, hafter⟩ := ih halike.vm hrest.symm
      rw [hobserved, observed_cons hs, observed_cons hs, after_append, after_cons, after_cons]
      exact ⟨.cons ⟨rfl, halike⟩ hlater, hafter⟩

/--
**Recording is invisible.** Take two virtual CPUs that differ in nothing but what they have
recorded and whether they record, and two runs that differ in nothing but where recording
is switched. Step by step the two runs come to the same, whatever the handlers are and do, and
they leave the same but for what has been recorded. Giving up the virtual CPUs afterwards
tells records and nothing else.
-/
theorem recording_is_invisible {vm vm' : Vm σ} {steps steps' : List (Step σ)}
    (start : vm.unrecorded = vm'.unrecorded)
    (same : steps.filter (fun s => !s.switches) = steps'.filter fun s => !s.switches) :
    List.Forall₂ (fun p p' => p.1 = p'.1 ∧ p.2.Alike p.1 p'.2)
        (vm.observed steps) (vm'.observed steps')
      ∧ (vm.after steps).unrecorded = (vm'.after steps').unrecorded
      ∧ RecordsOnly (vm.after steps).retire ∧ RecordsOnly (vm'.after steps').retire := by
  obtain ⟨hobserved, hafter⟩ := observed_alike start same
  exact ⟨hobserved, hafter, recordsOnly_retire _, recordsOnly_retire _⟩

/-- A run without recording beside one that starts with a record and switches twice. The first exit
is fatal and dumped, so the two logs are told different things. The second is claimed and recorded
in one run only, and both logs are told the same. -/
theorem recording_is_invisible_switched :
    let m : Machine := { vmcs := (({} : Vmcs).write .exitReason 28).write .exitQualification 0x300 }
    let vm : Vm Script.Tally := (create m).1
    let vm' : Vm Script.Tally :=
      { vm with controlRegister := { log := { cr0 := #[⟨1, 2⟩] }, logging := true } }
    let handler := Script.accessHandler "alternates" [.raise 1] (.every 2)
    let steps : List (Step Script.Tally) := [.addAccessHandler .writeCr0 handler, .exit, .exit]
    let steps' : List (Step Script.Tally) :=
      [.setLogging .externalInterrupt true, .addAccessHandler .writeCr0 handler, .exit,
        .setLogging .controlRegister true, .exit]
    let resumed := VmM.step .exit (vm.after (steps.take 2))
    let resumed' := VmM.step .exit (vm'.after (steps'.take 4))
    (vm.unrecorded = vm'.unrecorded
        ∧ steps.filter (fun s => !s.switches) = steps'.filter fun s => !s.switches)
      ∧ List.Forall₂ (fun p p' => p.1 = p'.1 ∧ p.2.Alike p.1 p'.2)
        (vm.observed steps) (vm'.observed steps')
      ∧ (vm.observed steps).length = 3
      ∧ resumed.value = .halted (.ok ())
      ∧ resumed.effects = resumed'.effects
      ∧ (vm.after steps).controlRegister.log.cr0.size = 0
      ∧ (vm'.after steps').controlRegister.log.cr0.size = 3 := by
  intro m vm vm' handler steps steps' resumed resumed'
  have start : vm.unrecorded = vm'.unrecorded := rfl
  have same : steps.filter (fun s => !s.switches) = steps'.filter fun s => !s.switches := rfl
  obtain ⟨hobserved, -⟩ := recording_is_invisible start same
  -- up to the last step the two runs have come to the same
  have hsofar : (steps.take 2).filter (fun s => !s.switches)
    = (steps'.take 4).filter fun s => !s.switches := rfl
  obtain ⟨-, hafter, -⟩ := recording_is_invisible start hsofar
  have hlast : resumed.Alike .exit resumed' := step_alike rfl hafter
  have hflow : (VmM.resolve (vm.after (steps.take 2))).value = .resume := by decide
  have hresumed : resumed.value = .halted (.ok ()) := by
    show Answer.halted (VmM.exit (vm.after (steps.take 2))).value = _
    rw [VmM.exit_of_resume hflow]
  refine ⟨⟨start, same⟩, hobserved, rfl, hresumed, hlast.effects ?_, by decide, by decide⟩
  rw [hresumed]
  rfl

end Vm

end GuestExit
