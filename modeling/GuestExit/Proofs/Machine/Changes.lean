import GuestExit.Machine.Operand

/-!
# What effects change

Among the effects of a piece of work the reports are for the log alone. `changes`
leaves them out: what remains is what the work did to the guest, in order, and it
determines the machine that the work leaves (`perform_changes`). So "nothing but
lines in the log" is the statement that a list of changes is empty.

The only work on the machine that is more than a single effect, and is done by
others than the handlers, is moving the instruction pointer. `advancement` is what
that changes.
-/

namespace GuestExit

/-- What a list of effects does to the machine, in order: all but the reports. -/
def changes (effects : List Effect) : List Effect :=
  effects.filter fun e => e.notice?.isNone

@[simp] theorem changes_nil : changes [] = [] := rfl

@[simp] theorem changes_append (a b : List Effect) : changes (a ++ b) = changes a ++ changes b :=
  List.filter_append ..

@[simp] theorem changes_cons_report (n : Notice) (rest : List Effect) :
    changes (.report n :: rest) = changes rest := rfl

@[simp] theorem changes_cons_write (f : Field) (v : UInt64) (rest : List Effect) :
    changes (.write f v :: rest) = .write f v :: changes rest := rfl

@[simp] theorem changes_cons_save (r : Register) (v : UInt64) (rest : List Effect) :
    changes (.save r v :: rest) = .save r v :: changes rest := rfl

/-- Telling the log something changes nothing. -/
@[simp] theorem changes_map_report (ns : List Notice) : changes (ns.map .report) = [] := by
  induction ns with
  | nil => rfl
  | cons n rest ih => exact ih

/-- The fields written are among the changes. -/
theorem writes_changes (effects : List Effect) : writes (changes effects) = writes effects := by
  induction effects with
  | nil => rfl
  | cons e rest ih =>
    unfold writes at ih ⊢
    cases e with
    | write f v => rw [changes_cons_write, List.filterMap_cons, List.filterMap_cons, ih]
    | save r v => exact ih
    | report n => exact ih

namespace Machine

/-- **The changes determine the machine.** -/
theorem perform_changes (m : Machine) (effects : List Effect) :
    m.perform (changes effects) = m.perform effects := by
  induction effects generalizing m with
  | nil => rfl
  | cons e rest ih =>
    cases e with
    | write f v => exact ih _
    | save r v => exact ih _
    | report n => exact ih _

/-- Two lists with the same changes leave the same machine. -/
theorem perform_congr (m : Machine) {a b : List Effect} (h : changes a = changes b) :
    m.perform a = m.perform b := by
  rw [← perform_changes m a, h, perform_changes]

/-- Effects without changes leave the machine as it was. -/
theorem perform_of_no_changes (m : Machine) {effects : List Effect} (h : changes effects = []) :
    m.perform effects = m :=
  m.perform_congr (b := []) h

/-- What moving the instruction pointer behind the instruction that exited changes, in order. -/
def advancement (m : Machine) : List Effect :=
  let new := m.vmcs.read .guestRip + instructionStep (m.vmcs.read .exitInstructionLength)
  [.save .rip new, .write .guestRip new]

end Machine

namespace ExitM

theorem changes_advanceRip (m : Machine) : changes (advanceRip m).effects = m.advancement := by
  by_cases h : 1 ≤ m.vmcs.read .exitInstructionLength ∧ m.vmcs.read .exitInstructionLength ≤ 15
  · simp [advanceRip, h, Machine.advancement]
  · simp [advanceRip, h, Machine.advancement]

end ExitM

end GuestExit
