import GuestExit.Proofs.ControlRegister.Records
import GuestExit.Proofs.Interrupt.Accounting
import GuestExit.Proofs.Vm.Dump
import GuestExit.Proofs.Vm.Fatal
import GuestExit.Proofs.Vm.Frame
import GuestExit.Proofs.Vm.Router
import GuestExit.Script.Handler

/-!
# The last words

When an exit is fatal, the records are put into the log, so that whoever looks for the reason
can see them. They are told then whether or not recording is on, and by that, twice would be
easy: a virtualizer that is given up while it records tells its records as well. So a halt
ends recording, and that is what makes it quiet afterwards.

`LastWords` says what a fatal exit comes to beyond the decision, and `Silent` what is no longer
to be heard. Handlers may tell the log what they like, also lines that look like records. So
the lines of records are compared with those that the handlers called have told: up to the
halt there are no others (`Discreet`).
-/

namespace GuestExit

open ControlRegister (Trap)

variable {σ α β : Type}

/-! ## Lines of records -/

/-- The line of a record, if the notice is one. -/
def Notice.record? : Notice → Option String
  | .recorded line => some line
  | _ => none

/-- The lines of records that are told in a list of effects, in order. -/
def recordLines (effects : List Effect) : List String :=
  (notices effects).filterMap Notice.record?

@[simp] theorem recordLines_nil : recordLines [] = [] := rfl

@[simp] theorem recordLines_append (a b : List Effect) :
    recordLines (a ++ b) = recordLines a ++ recordLines b := by
  simp [recordLines]

@[simp] theorem recordLines_cons_write (f : Field) (v : UInt64) (rest : List Effect) :
    recordLines (.write f v :: rest) = recordLines rest := rfl

@[simp] theorem recordLines_cons_save (r : Register) (v : UInt64) (rest : List Effect) :
    recordLines (.save r v :: rest) = recordLines rest := rfl

@[simp] theorem recordLines_cons_report (n : Notice) (rest : List Effect) :
    recordLines (.report n :: rest) = n.record?.toList ++ recordLines rest := by
  have h : notices (.report n :: rest) = n :: notices rest := rfl
  unfold recordLines
  rw [h, List.filterMap_cons]
  cases n.record? <;> rfl

theorem recordLines_map_report {ns : List Notice} (h : ∀ line, .recorded line ∉ ns) :
    recordLines (ns.map .report) = [] := by
  induction ns with
  | nil => rfl
  | cons n rest ih =>
    have hrest : ∀ line, .recorded line ∉ rest := fun line hl => h line (List.mem_cons_of_mem n hl)
    rw [List.map_cons, recordLines_cons_report, ih hrest]
    cases n with
    | recorded line => exact absurd List.mem_cons_self (h line)
    | _ => rfl

@[simp] theorem recordLines_map_recorded (lines : List String) :
    recordLines ((lines.map Notice.recorded).map .report) = lines := by
  induction lines with
  | nil => rfl
  | cons line rest ih => exact congrArg (line :: ·) ih

namespace ControlRegister

theorem Trap.recordLines_carryOut (t : Trap) (g : Gpr) (info : Descriptor) (m : Machine) :
    recordLines (t.carryOut g info m).effects = [] := by
  -- moving the value tells nothing at all; moving the instruction pointer does, but not of records
  have hemulate : recordLines (t.emulate g info m).effects = [] := by
    rw [effects_emulate]
    cases t with
    | readCr3 => by_cases hg : g = Gpr.rsp <;> simp [transfer, hg]
    | writeCr0 | writeCr3 | writeCr4 => rfl
  have hadvance : ∀ m, recordLines (ExitM.advanceRip m).effects = [] := by
    intro m
    unfold ExitM.advanceRip
    by_cases h : 1 ≤ m.vmcs.read .exitInstructionLength ∧ m.vmcs.read .exitInstructionLength ≤ 15 <;>
      simp [h, Notice.record?]
  unfold carryOut
  cases info.ignoreWrite <;> cases info.ignoreAdvance <;> simp [hemulate, hadvance]

end ControlRegister

namespace VmM

/-! ## Discretion -/

/-- Work that puts no records into the log: all lines of records are told by the handlers called. -/
def Discreet (x : VmM σ α) : Prop :=
  ∀ vm, recordLines (x vm).effects = recordLines ((x vm).calls.flatMap Called.effects)

theorem compositional_discreet : Compositional (Discreet (σ := σ)) where
  bind {_ _ x _} hx hf vm := by
    have hsecond := hf (x vm).value (x vm).vm
    simp [hx vm, hsecond]
  answer _ _ := rfl
  look _ hf vm := hf vm vm
  read hx _ vm := by simp [hx]
  tell h _ := recordLines_map_report h

theorem discreet_access : Discreet (handle .controlRegister : VmM σ _) := by
  intro vm
  rw [handle_controlRegister]
  cases hq : Qualification.decode (vm.machine.vmcs.read .exitQualification) with
  | error e =>
    rw [ControlRegister.Virtualizer.handle_of_invalid hq]
    rfl
  | ok q =>
    cases ht : Trap.ofAccess? q.access with
    | none =>
      rw [ControlRegister.Virtualizer.handle_of_unsupported hq ht]
      unfold ControlRegister.Virtualizer.unsupported
      split <;> rfl
    | some t =>
      rw [ControlRegister.Virtualizer.handle_of_trap hq ht]
      dsimp only
      rw [List.map_map, effects_calls_dispatch (fun _ => rfl)]
      -- what the virtualizer tells besides is about the access, not from its records
      split <;> simp [Trap.recordLines_carryOut, Notice.record?]

theorem discreet_interrupt : Discreet (handle .externalInterrupt : VmM σ _) := by
  intro vm
  -- there is a warning if the field describes no interrupt
  have hacknowledged : recordLines (Interrupt.acknowledged vm.machine).effects = [] := by
    unfold Interrupt.acknowledged
    rw [ExitM.effects_bind, ExitM.value_read]
    cases Interruption.ofWord? (vm.machine.vmcs.read .exitInterruption).toUInt32 <;> rfl
  rw [handle_externalInterrupt, Interrupt.Virtualizer.handle_eq]
  dsimp only
  rw [effects_calls_dispatch (fun _ => rfl)]
  split <;> simp [hacknowledged, Notice.record?]

/-- **Up to the decision no records are put into the log**, but by handlers. -/
theorem discreet_resolve : Discreet (resolve : VmM σ Flow) :=
  compositional_discreet.resolve fun route => by
    cases route with
    | controlRegister => exact discreet_access
    | externalInterrupt => exact discreet_interrupt

end VmM

/-! ## Silence -/

variable [Inhabited σ]

/-- A virtual CPU that makes no records, and keeps those it has to itself. -/
structure Silent (vm : Vm σ) : Prop where
  /-- No step makes a record (a new virtualizer starts without any), -/
  log : ∀ s, s ≠ .replace .controlRegister →
    (VmM.step s vm).vm.controlRegister.log = vm.controlRegister.log
  /-- and none counts an interrupt. -/
  counts : ∀ s, s ≠ .replace .externalInterrupt →
    (VmM.step s vm).vm.interrupt.counts = vm.interrupt.counts
  /-- All that is told when a virtualizer makes room for a new one is that the new one is
  registered. -/
  replaced : ∀ which, (VmM.step (.replace which) vm).effects
    = (({} : Routes).announce which.reason which).map .report
  /-- Nothing is told when the virtual CPU is given up. -/
  retired : vm.retire = []

namespace Vm

theorem silent_of_off {vm : Vm σ} (hc : vm.controlRegister.logging = false)
    (hi : vm.interrupt.logging = false) : Silent vm where
  log s kept := by
    have hrecorded : vm.controlRegister.recorded vm.machine = vm.controlRegister.log := by
      unfold ControlRegister.Virtualizer.recorded
      cases Trap.ofWord? (vm.machine.vmcs.read .exitQualification) <;> simp [hc]
    rw [ControlRegister.log_step vm kept, hrecorded, ite_self]
  counts s kept := by
    rw [Interrupt.counts_step vm kept, hi]
    simp
  replaced which := by
    cases which with
    | controlRegister =>
      simp [VmM.step, VmM.replace, ControlRegister.Virtualizer.retire, hc, Routes.construct]
    | externalInterrupt =>
      simp [VmM.step, VmM.replace, Interrupt.Virtualizer.retire, hi, Routes.construct]
  retired := by
    simp [Vm.retire, ControlRegister.Virtualizer.retire, Interrupt.Virtualizer.retire, hc, hi]

/-- **Silence lasts** until recording is switched on. -/
theorem silent_after {vm : Vm σ} {steps : List (Step σ)}
    (never : ∀ which, .setLogging which true ∉ steps) : Silent (vm.silenced.after steps) := by
  -- an exit leaves the switches alone, and a new virtualizer does not record
  refine silent_of_off ?_ ?_
  · exact accesses.off_after (P := fun v => v.logging = false) (fun _ _ h => h) (fun _ => rfl)
      (fun v m h => (v.handle_records m).2.trans h) (fun _ => rfl) rfl (never .controlRegister)
  · exact interrupts.off_after (P := fun v => v.logging = false) (fun _ _ h => h) (fun _ => rfl)
      (fun v m h => (v.handle_answers m).logging.trans h) (fun _ => rfl) rfl
      (never .externalInterrupt)

end Vm

namespace VmM

/-! ## The halt -/

/-- What a fatal exit comes to: the decision, the records, and an end of recording. -/
structure LastWords (vm : Vm σ) (x : Transition σ (Except Halt Unit)) : Prop where
  /-- The processor halts. -/
  value : x.value = .error .unrecoverable
  /-- No other handlers are called than for the decision. -/
  calls : x.calls = (resolve vm).calls
  /-- The virtual CPU is as the decision left it, but for the switches, which are off. -/
  left : x.vm = (resolve vm).vm.silenced
  /-- The records of control register accesses are put into the log and then the counts, after all
  else. -/
  effects : x.effects = (resolve vm).effects
    ++ ((resolve vm).vm.controlRegister.dump ++ (resolve vm).vm.interrupt.dump).map .report
  /-- The lines of records are those that handlers told, and then those of the two dumps: a title
  each, and a line for each record and each count. -/
  told : recordLines x.effects = recordLines (x.calls.flatMap Called.effects)
    ++ (x.vm.controlRegister.log.lines ++ x.vm.interrupt.counts.lines)
  /-- So no record is missing from the log, -/
  records : ∀ reg, ∀ r ∈ (x.vm.controlRegister.log.get reg).toList, r.words ∈ recordLines x.effects
  /-- and no vector that was seen. -/
  seen : ∀ w, x.vm.interrupt.counts.get w ≠ 0 →
    Interrupt.Counts.words w (x.vm.interrupt.counts.get w) ∈ recordLines x.effects
  /-- A record of the fatal exit itself is among them, -/
  log : x.vm.controlRegister.log = if vm.routed = some .controlRegister
    then vm.controlRegister.recorded vm.machine else vm.controlRegister.log
  /-- and it is counted. -/
  counts : x.vm.interrupt.counts
    = if vm.routed = some .externalInterrupt ∧ vm.interrupt.logging = true
      then vm.interrupt.counts.bump (vm.machine.vmcs.read .exitInterruption).toUInt8
      else vm.interrupt.counts

omit [Inhabited σ] in
theorem recordLines_exit {vm : Vm σ} (h : (resolve vm).value = .stop) :
    recordLines (exit vm).effects = recordLines ((exit vm).calls.flatMap Called.effects)
      ++ ((exit vm).vm.controlRegister.log.lines ++ (exit vm).vm.interrupt.counts.lines) := by
  rw [exit_of_stop h]
  dsimp only
  rw [recordLines_append, discreet_resolve vm, Vm.dump, ControlRegister.Virtualizer.dump_eq,
    Interrupt.Virtualizer.dump_eq, ← List.map_append, recordLines_map_recorded]
  rfl

theorem lastWords_of_stop {vm : Vm σ} (h : (resolve vm).value = .stop) :
    LastWords vm (exit vm) where
  value := by rw [exit_of_stop h]
  calls := by rw [exit_of_stop h]
  left := by rw [exit_of_stop h]
  effects := by
    rw [exit_of_stop h]
    rfl
  told := recordLines_exit h
  records reg r hr := by
    rw [recordLines_exit h]
    exact List.mem_append_right _ (List.mem_append_left _
      (ControlRegister.ExitLog.words_mem_lines hr))
  seen w hw := by
    rw [recordLines_exit h]
    exact List.mem_append_right _ (List.mem_append_right _ (Interrupt.Counts.words_mem_lines hw))
  log := by
    rw [exit_of_stop h]
    -- the halt comes after the exit has been recorded, and does not touch what was
    exact ControlRegister.log_step (s := .resolve) vm (by simp)
  counts := by
    rw [exit_of_stop h]
    exact Interrupt.counts_step (s := .resolve) vm (by simp)

/--
**A fatal exit has the last words, and they are said once.** The processor halts exactly if the
decision is to stop. If the guest goes on, nothing happens beyond the decision, and no records are
put into the log. If it does not, all of them are, those of the fatal exit included and whether or
not recording was on; and from then on, whatever happens, it is silent until recording is
switched on again.
-/
theorem exit_tells_once (vm : Vm σ) :
    ((exit vm).value = .error .unrecoverable ↔ (resolve vm).value = .stop)
      ∧ ((resolve vm).value = .resume →
        exit vm = ⟨.ok (), (resolve vm).vm, (resolve vm).calls, (resolve vm).effects⟩
          ∧ recordLines (exit vm).effects
            = recordLines ((exit vm).calls.flatMap Called.effects))
      ∧ ((resolve vm).value = .stop → LastWords vm (exit vm)
        ∧ ∀ steps : List (Step σ), (∀ which, .setLogging which true ∉ steps) →
          Silent ((exit vm).vm.after steps)) := by
  refine ⟨?_, fun h => ⟨exit_of_resume h, ?_⟩, fun h => ⟨lastWords_of_stop h, fun steps never => ?_⟩⟩
  · cases h : (resolve vm).value with
    | resume => simp [exit_of_resume h]
    | stop => simp [exit_of_stop h]
  · rw [exit_of_resume h]
    exact discreet_resolve vm
  · rw [exit_of_stop h]
    exact Vm.silent_after never

/-- Both virtualizers record. An interrupt that a handler takes on makes no lines; one that none
takes on is fatal: there is no access to tell about, and one interrupt. It is silent still after
another interrupt was claimed, the virtualizer was replaced, and the next interrupt was fatal
again. -/
theorem exit_tells_once_recording :
    let m : Machine :=
      { vmcs := (({} : Vmcs).write .exitReason 1).write .exitInterruption 0x800000C8 }
    let vm : Vm Script.Tally := (Vm.create m).1.after
      [.setLogging .controlRegister true, .setLogging .externalInterrupt true]
    let claimed : Vm Script.Tally := vm.after [.addReinjection]
    let later : List (Step Script.Tally) :=
      [.addReinjection, .exit, .replace .externalInterrupt, .exit]
    ((resolve claimed).value = .resume ∧ recordLines (exit claimed).effects = [])
      ∧ ((resolve vm).value = .stop ∧ ∀ which, .setLogging which true ∉ later)
      ∧ (exit vm).value = .error .unrecoverable
      ∧ recordLines (exit vm).effects
        = ["Control register exit log", "  CR0 (0 exits)", "  CR3 (0 exits)", "  CR4 (0 exits)",
          "External interrupt counts", "  200: 0x1"]
      ∧ Silent ((exit vm).vm.after later)
      ∧ ((exit vm).vm.after later).retire = [] := by
  intro m vm claimed later
  have hresume : (resolve claimed).value = .resume := by decide
  have hstop : (resolve vm).value = .stop := by decide
  have never : ∀ which, .setLogging which true ∉ later := fun which => by simp [later]
  obtain ⟨-, hgoes, -⟩ := exit_tells_once claimed
  obtain ⟨-, -, hhalt⟩ := exit_tells_once vm
  obtain ⟨hlast, hsilent⟩ := hhalt hstop
  refine ⟨⟨hresume, ?_⟩, ⟨hstop, never⟩, hlast.value, ?_, hsilent later never,
    (hsilent later never).retired⟩
  · rw [(hgoes hresume).2]
    decide
  · rw [hlast.told]
    decide +kernel

end VmM

end GuestExit
