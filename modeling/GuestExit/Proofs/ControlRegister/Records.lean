import GuestExit.Proofs.ControlRegister.Answer
import GuestExit.Proofs.Vm.Life
import GuestExit.Script.Handler

/-!
# The records are the past

Three lists of records are what a virtualizer of control register accesses remembers of
its exits. Here they are compared with all the exits it handled, which are kept beside
it in `Life`. An exit leaves a record if it was an access that has a trap and
recording was on, and then exactly one, in the list of the register accessed: the value and the
shadow as the handlers left them (`recordFor`). That holds of every register, so a read
of CR3 and a write of it go to the same list, and CR2 and CR8 never get a record.

It does not matter whether the handlers claimed the access, nor what they said about
writing and advancing: the record is taken between their answer and what follows on
it. Nor is a record ever taken back (`records_are_exact`), for the past only grows.
-/

namespace GuestExit.ControlRegister

variable {σ : Type}

/-- The record that an exit leaves in the list of a register if recording is on: what the handlers
made of the access, if it was one of that register that has a trap. -/
def recordFor (reg : ControlReg) (x : Taken (Virtualizer σ)) : Option ExitRecord :=
  match Trap.ofWord? (x.machine.vmcs.read .exitQualification) with
  | some (t, g) =>
    let info := (x.virtualizer.ask t g x.machine).value.info
    if t.access.register = reg then some ⟨info.value, info.shadow⟩ else none
  | none => none

/-- Without handlers it is the defaults of the access. -/
theorem recordFor_of_no_handlers {x : Taken (Virtualizer σ)} {t : Trap} {g : Gpr}
    (h : Trap.ofWord? (x.machine.vmcs.read .exitQualification) = some (t, g))
    (none : x.virtualizer.chains.get t = []) :
    recordFor t.access.register x
      = some ⟨(t.initial g x.machine).value, (t.initial g x.machine).shadow⟩ := by
  simp [recordFor, h, Virtualizer.ask, none]

/-- The records that some exits leave in the list of a register. -/
def recordsFor (reg : ControlReg) (past : List (Taken (Virtualizer σ))) : List ExitRecord :=
  (past.filter (·.recording)).filterMap (recordFor reg)

theorem recordsFor_append (reg : ControlReg) (a b : List (Taken (Virtualizer σ))) :
    recordsFor reg (a ++ b) = recordsFor reg a ++ recordsFor reg b := by
  simp [recordsFor]

theorem recordsFor_prefix (reg : ControlReg) {a b : List (Taken (Virtualizer σ))} (h : a <+: b) :
    recordsFor reg a <+: recordsFor reg b := by
  obtain ⟨rest, rfl⟩ := h
  rw [recordsFor_append]
  exact List.prefix_append _ _

/-! ## One exit -/

namespace Virtualizer

/-- The records after an exit: one more if the access has a trap and recording is on. -/
def recorded (v : Virtualizer σ) (m : Machine) : ExitLog :=
  match Trap.ofWord? (m.vmcs.read .exitQualification) with
  | some (t, g) =>
    let info := (v.ask t g m).value.info
    if v.logging then v.log.push t ⟨info.value, info.shadow⟩ else v.log
  | none => v.log

/-- **An exit leaves at most one record**, and recording stays on or off. -/
theorem handle_records (v : Virtualizer σ) (m : Machine) :
    (v.handle m).value.virtualizer.log = v.recorded m
      ∧ (v.handle m).value.virtualizer.logging = v.logging := by
  unfold recorded
  cases h : Trap.ofWord? (m.vmcs.read .exitQualification) with
  | none =>
    obtain ⟨e, hvalue, -⟩ := v.handle_of_untrapped h
    rw [hvalue]
    exact ⟨rfl, rfl⟩
  | some p =>
    rw [value_handle h]
    exact ⟨rfl, rfl⟩

/-- The records after an exit are the records before, and the one it leaves. -/
theorem toList_recorded (v : Virtualizer σ) (m : Machine) (reg : ControlReg) :
    ((v.recorded m).get reg).toList
      = (v.log.get reg).toList ++ recordsFor reg [⟨v, m, v.logging⟩] := by
  unfold recorded
  cases h : Trap.ofWord? (m.vmcs.read .exitQualification) with
  | none =>
    cases hl : v.logging with
    | false => simp [recordsFor]
    | true => simp [recordsFor, recordFor, h]
  | some p =>
    obtain ⟨t, g⟩ := p
    cases hl : v.logging with
    | false => simp [recordsFor]
    | true =>
      by_cases e : t.access.register = reg
      · simp [recordsFor, recordFor, h, e, ExitLog.get_push]
      · have e' : ¬ reg = t.access.register := fun h => e h.symm
        simp [recordsFor, recordFor, h, e, e', ExitLog.get_push]

end Virtualizer

/-! ## The invariant -/

/-- A virtualizer whose records agree with what it has lived through. -/
structure Recorded (l : Life (Virtualizer σ)) : Prop where
  /-- It records if it was last told to. -/
  logging : l.virtualizer.logging = l.recording
  /-- Each list is what its past leaves in it. -/
  log : ∀ reg, (l.virtualizer.log.get reg).toList = recordsFor reg l.past

theorem recorded_new : Recorded { virtualizer := ({} : Virtualizer σ) } := by
  refine ⟨rfl, fun reg => ?_⟩
  cases reg <;> rfl

/-- **Whatever happens to a virtualizer, its records agree with its past.** -/
theorem recorded_next {l : Life (Virtualizer σ)} (h : Recorded l)
    (i : Incident (Trap × Handler σ Descriptor)) : Recorded (l.next Virtualizer.undergo i) := by
  cases i with
  | registered handler => exact ⟨h.logging, h.log⟩
  | switched on => exact ⟨rfl, h.log⟩
  | exited m =>
    obtain ⟨hlog, hlogging⟩ := l.virtualizer.handle_records m
    refine ⟨hlogging.trans h.logging, fun reg => ?_⟩
    have hpast : (l.next Virtualizer.undergo (.exited m)).past
        = l.past ++ [⟨l.virtualizer, m, l.virtualizer.logging⟩] := by
      rw [h.logging]
      rfl
    have hafter : (l.next Virtualizer.undergo (.exited m)).virtualizer.log
        = l.virtualizer.recorded m := hlog
    rw [hpast, hafter, recordsFor_append, Virtualizer.toList_recorded, h.log]
  | replaced => exact recorded_new

variable [Inhabited σ]

theorem recorded_life (m : Machine) (steps : List (Step σ)) : Recorded (accesses.life m steps) :=
  accesses.life_induction m steps recorded_new fun _ i h => recorded_next h i

/-- Only handling an exit makes a record. -/
theorem log_step (vm : Vm σ) {s : Step σ} (kept : s ≠ .replace .controlRegister) :
    (VmM.step s vm).vm.controlRegister.log
      = if vm.serves s = some .controlRegister then vm.controlRegister.recorded vm.machine
        else vm.controlRegister.log := by
  have hexited : (vm.controlRegister.undergo (.exited vm.machine)).log = _ :=
    (vm.controlRegister.handle_records vm.machine).1
  rw [← hexited]
  exact (accesses.get_step_exited Virtualizer.log (fun _ _ => rfl) (fun _ _ => rfl) vm kept).trans
    (apply_ite Virtualizer.log ..)

/--
**The records are exact, and only ever added to.** After any run of a virtual CPU the list of a
register holds what the exits leave in it that the virtualizer in place handled, in their order, and
nothing else; without handlers that is the defaults of the access. Whatever is done after that, what
the lists hold by then they hold for good, at the same place. A step makes a record only by handling
an exit.
-/
theorem records_are_exact (m : Machine) (steps : List (Step σ)) :
    let past := (accesses.life m steps).past
    let now := (Vm.create m).1.after steps
    (∀ reg, (now.controlRegister.log.get reg).toList = recordsFor reg past)
      ∧ now.controlRegister.log.get .cr2 = #[] ∧ now.controlRegister.log.get .cr8 = #[]
      ∧ (∀ x ∈ past, ∀ t g, Trap.ofWord? (x.machine.vmcs.read .exitQualification) = some (t, g) →
        x.virtualizer.chains.get t = [] → recordFor t.access.register x
          = some ⟨(t.initial g x.machine).value, (t.initial g x.machine).shadow⟩)
      ∧ (∀ later, .replace .controlRegister ∉ later → ∀ reg,
        (now.controlRegister.log.get reg).toList
          <+: ((now.after later).controlRegister.log.get reg).toList)
      ∧ ∀ s, s ≠ .replace .controlRegister → (VmM.step s now).vm.controlRegister.log
        = if now.serves s = some .controlRegister then now.controlRegister.recorded now.machine
          else now.controlRegister.log := by
  intro past now
  have hexact : ∀ steps reg, (((Vm.create m).1.after steps).controlRegister.log.get reg).toList
      = recordsFor reg (accesses.life m steps).past := fun steps reg => by
    rw [← (recorded_life (σ := σ) m steps).log reg, accesses.virtualizer_life]
    rfl
  refine ⟨hexact steps, rfl, rfl, fun x _ t g h none => recordFor_of_no_handlers h none,
    fun later kept reg => ?_, fun s kept => log_step now kept⟩
  have hlater : now.after later = (Vm.create m).1.after (steps ++ later) :=
    (Vm.after_append _ _ _).symm
  rw [hlater, hexact, hexact]
  exact recordsFor_prefix reg (accesses.past_life_append m steps kept)

/-- A write of CR3 that there are no handlers for leaves its defaults, although it is fatal, and a
read of CR3 follows it in the same list. Both stay while recording is off, while it is on again, and
whatever other accesses fail. -/
theorem records_are_exact_of_declined :
    let m : Machine :=
      { vmcs := (({} : Vmcs).write .exitReason 28).write .exitQualification 0x3
        saved := ({} : Registers).write (.gpr 0) 0x1000 }
    let steps : List (Step Script.Tally) :=
      [.setLogging .controlRegister true, .resolve,
        .addAccessHandler .readCr3
          (Script.accessHandler "grants" [.raise 0x18, .ignoreWrite true] (.always true)),
        .assign [(.exitQualification, 0x13)] [], .resolve]
    let later : List (Step Script.Tally) :=
      [.setLogging .controlRegister false, .resolve, .setLogging .controlRegister true,
        .assign [(.exitQualification, 0x2)] [], .resolve]
    let now := (Vm.create m).1.after steps
    .replace .controlRegister ∉ later
      ∧ (now.controlRegister.log.get .cr3).toList = [⟨0x1000, 0⟩, ⟨0x18, 0⟩]
      ∧ (now.controlRegister.log.get .cr3).toList
        <+: ((now.after later).controlRegister.log.get .cr3).toList := by
  intro m steps later now
  have kept : .replace .controlRegister ∉ later := by simp [later]
  obtain ⟨hexact, -, -, -, hprefix, -⟩ := records_are_exact m steps
  dsimp only [now]
  exact ⟨kept, (hexact .cr3).trans (by decide), hprefix later kept .cr3⟩

end GuestExit.ControlRegister
