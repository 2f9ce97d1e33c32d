import GuestExit.Machine.State

/-!
# Work done during an exit

A piece of work looks at the machine and yields a value together with the effects
it has. Of two pieces in sequence the second sees the machine the first one left,
and the effects of both are those of the first followed by those of the second.

`ExitM` is a lawful monad, so longer pieces are written as programs; the equations
for `value` and `effects` say what such a program does.
-/

namespace GuestExit

/-- What a piece of work yields. -/
structure Outcome (α : Type) where
  value : α
  /-- Everything done, in order. -/
  effects : List Effect
  deriving DecidableEq, Repr

/-- Work done on a machine during an exit. -/
def ExitM (α : Type) : Type :=
  Machine → Outcome α

namespace ExitM

variable {α β : Type}

/-- Work that does nothing. -/
protected def pure (a : α) : ExitM α := fun _ => ⟨a, []⟩

/-- Work in sequence: `f` goes on where `x` stopped. -/
protected def bind (x : ExitM α) (f : α → ExitM β) : ExitM β := fun m =>
  let first := x m
  let second := f first.value (m.perform first.effects)
  ⟨second.value, first.effects ++ second.effects⟩

instance : Monad ExitM where
  pure := ExitM.pure
  bind := ExitM.bind

/-- The machine that a piece of work leaves. -/
def final (x : ExitM α) (m : Machine) : Machine :=
  m.perform (x m).effects

theorem pure_apply (a : α) (m : Machine) : (pure a : ExitM α) m = ⟨a, []⟩ := rfl

theorem bind_apply (x : ExitM α) (f : α → ExitM β) (m : Machine) :
    (x >>= f) m = ⟨(f (x m).value (x.final m)).value,
      (x m).effects ++ (f (x m).value (x.final m)).effects⟩ := rfl

@[simp] theorem value_pure (a : α) (m : Machine) : ((pure a : ExitM α) m).value = a := rfl

@[simp] theorem effects_pure (a : α) (m : Machine) : ((pure a : ExitM α) m).effects = [] := rfl

@[simp] theorem value_bind (x : ExitM α) (f : α → ExitM β) (m : Machine) :
    ((x >>= f) m).value = (f (x m).value (x.final m)).value := rfl

@[simp] theorem effects_bind (x : ExitM α) (f : α → ExitM β) (m : Machine) :
    ((x >>= f) m).effects = (x m).effects ++ (f (x m).value (x.final m)).effects := rfl

@[simp] theorem final_pure (a : α) (m : Machine) : (pure a : ExitM α).final m = m := rfl

@[simp] theorem final_bind (x : ExitM α) (f : α → ExitM β) (m : Machine) :
    (x >>= f).final m = (f (x m).value).final (x.final m) := by
  simp [final]

/-- Two pieces of work are equal if they yield the same on every machine. -/
theorem ext {x y : ExitM α} (value : ∀ m, (x m).value = (y m).value)
    (effects : ∀ m, (x m).effects = (y m).effects) : x = y := by
  funext m
  have hv := value m
  have he := effects m
  cases hx : x m
  cases hy : y m
  simp_all

@[simp] theorem value_map (f : α → β) (x : ExitM α) (m : Machine) :
    ((f <$> x) m).value = f (x m).value := rfl

@[simp] theorem effects_map (f : α → β) (x : ExitM α) (m : Machine) :
    ((f <$> x) m).effects = (x m).effects :=
  List.append_nil _

@[simp] theorem final_map (f : α → β) (x : ExitM α) (m : Machine) :
    (f <$> x).final m = x.final m := by
  simp [final]

instance : LawfulMonad ExitM := LawfulMonad.mk' ExitM
  (fun x => ext (fun _ => rfl) (fun m => by simp))
  (fun _ _ => ext (fun _ => rfl) (fun _ => rfl))
  (fun x f g => ext (fun m => by simp) (fun m => by simp))

/-- The machine as it is. -/
def machine : ExitM Machine := fun m => ⟨m, []⟩

/-- Does the work and keeps its whole outcome, not the value alone. -/
def observe (x : ExitM α) : ExitM (Outcome α) := fun m =>
  let o := x m
  ⟨o, o.effects⟩

/-- The value of a field. -/
def read (field : Field) : ExitM UInt64 := fun m => ⟨m.vmcs.read field, []⟩

/-- Work with a single effect. -/
def emit (effect : Effect) : ExitM Unit := fun _ => ⟨(), [effect]⟩

/-- Gives a field a value. -/
def write (field : Field) (value : UInt64) : ExitM Unit := emit (.write field value)

/-- Changes a saved register. -/
def save (register : Register) (value : UInt64) : ExitM Unit := emit (.save register value)

/-- Tells the log something. -/
def report (notice : Notice) : ExitM Unit := emit (.report notice)

/-- Sets bits of a field and keeps the others. -/
def setBits (field : Field) (bits : UInt64) : ExitM Unit := do
  write field ((← read field) ||| bits)

/-- Clears bits of a field and keeps the others. -/
def clearBits (field : Field) (bits : UInt64) : ExitM Unit := do
  write field ((← read field) &&& ~~~bits)

@[simp] theorem value_machine (m : Machine) : (machine m).value = m := rfl

@[simp] theorem effects_machine (m : Machine) : (machine m).effects = [] := rfl

@[simp] theorem final_machine (m : Machine) : machine.final m = m := rfl

@[simp] theorem value_observe (x : ExitM α) (m : Machine) : (x.observe m).value = x m := rfl

@[simp] theorem effects_observe (x : ExitM α) (m : Machine) :
    (x.observe m).effects = (x m).effects := rfl

@[simp] theorem final_observe (x : ExitM α) (m : Machine) : x.observe.final m = x.final m := rfl

@[simp] theorem value_read (f : Field) (m : Machine) : (read f m).value = m.vmcs.read f := rfl

@[simp] theorem effects_read (f : Field) (m : Machine) : (read f m).effects = [] := rfl

@[simp] theorem final_read (f : Field) (m : Machine) : (read f).final m = m := rfl

@[simp] theorem effects_write (f : Field) (v : UInt64) (m : Machine) :
    (write f v m).effects = [.write f v] := rfl

@[simp] theorem final_write (f : Field) (v : UInt64) (m : Machine) :
    (write f v).final m = { m with vmcs := m.vmcs.write f v } := rfl

@[simp] theorem effects_save (r : Register) (v : UInt64) (m : Machine) :
    (save r v m).effects = [.save r v] := rfl

@[simp] theorem final_save (r : Register) (v : UInt64) (m : Machine) :
    (save r v).final m = { m with saved := m.saved.write r v } := rfl

@[simp] theorem effects_report (n : Notice) (m : Machine) :
    (report n m).effects = [.report n] := rfl

@[simp] theorem final_report (n : Notice) (m : Machine) : (report n).final m = m := rfl

end ExitM

end GuestExit
