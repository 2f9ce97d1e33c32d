import GuestExit.Proofs.Interrupt.CountText
import GuestExit.Proofs.Vm.Farewell

/-!
# A dump is the text that is written

The records of a virtualizer can be written into a sink, and they can be put into the log. A sink
takes the text as it comes, and the log takes lines. Here the two are compared: the lines in the log,
with a line feed behind each, are the text in the sink (`Transcribes`).

Nothing in a line can be taken for the end of one, since it has no characters that come before the
space. So it does not matter either whether a carriage return in front of a line feed counts as a
part of the line end.
-/

namespace GuestExit

variable {σ : Type}

/-! ## Lines and their number -/

/-- Notices that tell a text, line by line. -/
structure Transcribes (told : List Notice) (text : String) : Prop where
  level : ∀ n ∈ told, n.level = .info
  /-- The lines, each ended by a line feed, are the text. -/
  joined : String.join (told.map fun n => n.text ++ "\n") = text
  /-- Only these line feeds end a line. -/
  printable : ∀ n ∈ told, Text.Printable n.text

theorem transcribes_recorded {lines : List String} (h : ∀ line ∈ lines, Text.Printable line) :
    Transcribes (lines.map .recorded) (String.join (lines.map (· ++ "\n"))) where
  level := List.forall_mem_map.mpr fun _ _ => rfl
  joined := by
    rw [List.map_map]
    rfl
  printable := List.forall_mem_map.mpr h

namespace ControlRegister.ExitLog

theorem length_lines (log : ExitLog) :
    log.lines.length = 4 + log.cr0.size + log.cr3.size + log.cr4.size := by
  simp only [lines, sectionLines, List.length_cons, List.length_append, List.length_map,
    Array.length_toList]
  omega

end ControlRegister.ExitLog

namespace Interrupt.Counts

theorem length_lines (c : Counts) :
    c.lines.length = 1 + vectors.countP fun w => c.get w ≠ 0 := by
  rw [lines_eq, List.length_cons, List.length_map, seen, ← List.countP_eq_length_filter,
    Nat.add_comm]

end Interrupt.Counts

theorem ControlRegister.Virtualizer.transcribes_dump (v : Virtualizer σ) :
    Transcribes v.dump v.log.text := by
  rw [v.dump_eq, v.log.text_eq]
  exact transcribes_recorded v.log.printable_lines

theorem Interrupt.Virtualizer.transcribes_dump (v : Virtualizer σ) :
    Transcribes v.dump v.counts.text := by
  rw [v.dump_eq, v.counts.text_eq]
  exact transcribes_recorded v.counts.printable_lines

namespace Vm

/-! ## Both virtualizers -/

/-- What is put into the log if a virtualizer's records are. -/
def dumped (vm : Vm σ) : Route → List Notice
  | .controlRegister => vm.controlRegister.dump
  | .externalInterrupt => vm.interrupt.dump

/-- Writes a virtualizer's records into a sink. -/
def writeTo (vm : Vm σ) (sink : Text.Sink) : Route → Text.Delivery
  | .controlRegister => vm.controlRegister.log.writeTo sink
  | .externalInterrupt => vm.interrupt.counts.writeTo sink

/-- The number of lines that a virtualizer's records take. -/
def lineCount (vm : Vm σ) : Route → Nat
  | .controlRegister => 4 + vm.controlRegister.log.cr0.size + vm.controlRegister.log.cr3.size
    + vm.controlRegister.log.cr4.size
  | .externalInterrupt => 1 + Interrupt.Counts.vectors.countP fun w => vm.interrupt.counts.get w ≠ 0

theorem transcribes_dumped (vm : Vm σ) (which : Route) :
    ∃ text, vm.writeTo {} which = .complete text ∧ Transcribes (vm.dumped which) text := by
  cases which with
  | controlRegister =>
    exact ⟨_, vm.controlRegister.log.writeTo_empty, vm.controlRegister.transcribes_dump⟩
  | externalInterrupt =>
    exact ⟨_, vm.interrupt.counts.writeTo_empty, vm.interrupt.transcribes_dump⟩

theorem length_dumped (vm : Vm σ) (which : Route) :
    (vm.dumped which).length = vm.lineCount which := by
  cases which with
  | controlRegister =>
    unfold dumped lineCount
    rw [ControlRegister.Virtualizer.dump_eq, List.length_map, ControlRegister.ExitLog.length_lines]
  | externalInterrupt =>
    unfold dumped lineCount
    rw [Interrupt.Virtualizer.dump_eq, List.length_map, Interrupt.Counts.length_lines]

/-- There is a title even if nothing was recorded. -/
theorem dumped_ne_nil (vm : Vm σ) (which : Route) : vm.dumped which ≠ [] := by
  refine List.ne_nil_of_length_pos ?_
  rw [length_dumped]
  cases which <;> simp only [lineCount] <;> omega

theorem farewell_eq (vm : Vm σ) (which : Route) :
    vm.farewell which = if vm.recording which = true then vm.dumped which else [] := by
  cases which <;> rfl

/-- **A virtualizer that is given up tells its records exactly if it is recording.** -/
theorem farewell_eq_dumped_iff (vm : Vm σ) (which : Route) :
    vm.farewell which = vm.dumped which ↔ vm.recording which = true := by
  have htitle := vm.dumped_ne_nil which
  rw [farewell_eq]
  split_ifs with h
  · simp [h]
  · simp [h, htitle.symm]

theorem farewell_eq_nil_iff (vm : Vm σ) (which : Route) :
    vm.farewell which = [] ↔ vm.recording which = false := by
  have htitle := vm.dumped_ne_nil which
  rw [farewell_eq]
  split_ifs with h
  · simp [h, htitle]
  · simp [h]

variable [Inhabited σ]

/--
**A dump is the text that is written.** Putting a virtualizer's records into the log changes nothing
and tells nothing else. It tells them in lines that are there for information, as many as there are
records and headings, and with a line feed behind each they are the text that a sink without a bound
takes. If both virtualizers are dumped, that of control register accesses comes first. A virtualizer
that is given up, alone or with the virtual CPU, tells the same lines if it is recording, and
otherwise none.
-/
theorem dump_is_what_is_written (vm : Vm σ) :
    (∀ which,
      VmM.step (.dump which) vm = ⟨.done, vm, [], (vm.dumped which).map .report⟩
        ∧ (∃ text, vm.writeTo {} which = .complete text ∧ Transcribes (vm.dumped which) text)
        ∧ (vm.dumped which).length = vm.lineCount which
        ∧ (vm.farewell which = vm.dumped which ↔ vm.recording which = true)
        ∧ (vm.farewell which = [] ↔ vm.recording which = false)
        ∧ (VmM.step (.replace which) vm).effects
          = (({} : Routes).announce which.reason which ++ vm.farewell which).map .report)
      ∧ VmM.step .dumpAll vm = ⟨.done, vm, [],
        (vm.dumped .controlRegister ++ vm.dumped .externalInterrupt).map .report⟩
      ∧ vm.retire = vm.farewell .controlRegister ++ vm.farewell .externalInterrupt := by
  have hstep : ∀ which,
      VmM.step (.dump which) vm = ⟨.done, vm, [], (vm.dumped which).map .report⟩ := by
    intro which
    cases which with
    | controlRegister => simp [VmM.step, VmM.dump, VmM.bind_apply, dumped]
    | externalInterrupt => simp [VmM.step, VmM.dump, VmM.bind_apply, dumped]
  have hall : VmM.step .dumpAll vm = ⟨.done, vm, [],
      (vm.dumped .controlRegister ++ vm.dumped .externalInterrupt).map .report⟩ := by
    simp [VmM.step, VmM.bind_apply, dumped, dump]
  exact ⟨fun which => ⟨hstep which, vm.transcribes_dumped which, vm.length_dumped which,
    vm.farewell_eq_dumped_iff which, vm.farewell_eq_nil_iff which, vm.effects_replace which⟩,
    hall, rfl⟩

end Vm

end GuestExit
