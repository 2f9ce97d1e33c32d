import GuestExit.Log.Notice
import GuestExit.Machine.Register
import GuestExit.Machine.Vmcs

/-!
# The machine and what can happen to it

While an exit is handled the hypervisor sees a machine of two parts: the control
structure and the saved registers. All it can do is write a field, save a register
or tell the log. These effects are data: a piece of work yields the list of them,
in order, and the machine it leaves is the machine it found with that list
performed. So the fields written and the lines logged are read off the same list
that determines the result.
-/

namespace GuestExit

/-- What is visible of a virtual CPU while an exit is handled. -/
structure Machine where
  vmcs : Vmcs := {}
  saved : Registers := {}
  deriving DecidableEq, Repr, Inhabited

/-- Something done to a machine, or told about it. -/
inductive Effect where
  /-- A field of the control structure is written. -/
  | write (field : Field) (value : UInt64)
  /-- A saved register is changed. -/
  | save (register : Register) (value : UInt64)
  /-- The log is told something. -/
  | report (notice : Notice)
  deriving DecidableEq, Repr

namespace Effect

/-- The field written and its value, if the effect is a write. -/
def written? : Effect → Option (Field × UInt64)
  | write field value => some (field, value)
  | _ => none

/-- What the log is told, if the effect is a report. -/
def notice? : Effect → Option Notice
  | report notice => some notice
  | _ => none

end Effect

/-- The fields written in a list of effects, with their values, in order. -/
def writes (effects : List Effect) : List (Field × UInt64) :=
  effects.filterMap Effect.written?

/-- What the log is told in a list of effects, in order. -/
def notices (effects : List Effect) : List Notice :=
  effects.filterMap Effect.notice?

@[simp] theorem writes_nil : writes [] = [] := rfl

@[simp] theorem writes_append (a b : List Effect) : writes (a ++ b) = writes a ++ writes b :=
  List.filterMap_append

@[simp] theorem notices_nil : notices [] = [] := rfl

@[simp] theorem notices_append (a b : List Effect) :
    notices (a ++ b) = notices a ++ notices b :=
  List.filterMap_append

namespace Machine

/-- The machine after one effect. -/
def apply (m : Machine) : Effect → Machine
  | .write field value => { m with vmcs := m.vmcs.write field value }
  | .save register value => { m with saved := m.saved.write register value }
  | .report _ => m

/-- The machine after a list of effects. -/
def perform (m : Machine) (effects : List Effect) : Machine :=
  effects.foldl apply m

@[simp] theorem perform_nil (m : Machine) : m.perform [] = m := rfl

@[simp] theorem perform_cons (m : Machine) (e : Effect) (rest : List Effect) :
    m.perform (e :: rest) = (m.apply e).perform rest := rfl

@[simp] theorem perform_append (m : Machine) (a b : List Effect) :
    m.perform (a ++ b) = (m.perform a).perform b :=
  List.foldl_append

@[simp] theorem apply_write (m : Machine) (f : Field) (v : UInt64) :
    m.apply (.write f v) = { m with vmcs := m.vmcs.write f v } := rfl

@[simp] theorem apply_save (m : Machine) (r : Register) (v : UInt64) :
    m.apply (.save r v) = { m with saved := m.saved.write r v } := rfl

@[simp] theorem apply_report (m : Machine) (n : Notice) : m.apply (.report n) = m := rfl

end Machine

end GuestExit
