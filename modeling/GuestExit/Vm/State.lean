import GuestExit.ControlRegister.Virtualizer
import GuestExit.Interrupt.Virtualizer
import GuestExit.Vm.Routes

/-!
# A virtual CPU

Everything one virtual CPU needs to handle its exits: the machine, the two
virtualizers and the routes between them. A piece of work on a virtual CPU yields a
value, the virtual CPU as it is then, the handlers called and the effects it had,
each in order.

`VmM` is a lawful monad. Work on the machine alone, and the handling of an exit by
either virtualizer, are its building blocks.
-/

namespace GuestExit

/-- The reason that a virtualizer is registered for. -/
def Route.reason : Route → Reason
  | .controlRegister => ControlRegister.reason
  | .externalInterrupt => Interrupt.reason

/-- What comes of constructing a virtualizer. -/
structure Constructed where
  routes : Routes
  /-- What the log is told. -/
  told : List Notice

/-- Constructs a virtualizer on some routes. It registers itself there, for the reason it serves. -/
def Routes.construct (routes : Routes) (route : Route) : Constructed where
  routes := routes.register route.reason route
  told := routes.announce route.reason route

/-- A virtual CPU whose handlers have private states in `σ`. -/
structure Vm (σ : Type) where
  machine : Machine := {}
  controlRegister : ControlRegister.Virtualizer σ := {}
  interrupt : Interrupt.Virtualizer σ := {}
  routes : Routes := {}

/-- A handler of one of the virtualizers was called. -/
inductive Called (σ : Type) where
  /-- A handler of a control register access. -/
  | access (trap : ControlRegister.Trap) (call : Call σ ControlRegister.Descriptor)
  /-- A handler of an external interrupt. -/
  | interrupt (call : Call σ Interrupt.Descriptor)
  deriving DecidableEq, Repr

/-- What a piece of work on a virtual CPU yields. -/
structure Transition (σ α : Type) where
  value : α
  vm : Vm σ
  /-- The handlers called, in order. -/
  calls : List (Called σ)
  /-- Everything done, in order. -/
  effects : List Effect

/-- Work on a virtual CPU. -/
def VmM (σ α : Type) : Type :=
  Vm σ → Transition σ α

namespace VmM

variable {σ α β : Type}

/-- Work that does nothing. -/
protected def pure (a : α) : VmM σ α := fun vm => ⟨a, vm, [], []⟩

/-- Work in sequence: `f` goes on where `x` stopped. -/
protected def bind (x : VmM σ α) (f : α → VmM σ β) : VmM σ β := fun vm =>
  let first := x vm
  let second := f first.value first.vm
  ⟨second.value, second.vm, first.calls ++ second.calls, first.effects ++ second.effects⟩

instance : Monad (VmM σ) where
  pure := VmM.pure
  bind := VmM.bind

@[simp] theorem pure_apply (a : α) (vm : Vm σ) : (pure a : VmM σ α) vm = ⟨a, vm, [], []⟩ := rfl

theorem bind_apply (x : VmM σ α) (f : α → VmM σ β) (vm : Vm σ) :
    (x >>= f) vm =
      let first := x vm
      let second := f first.value first.vm
      ⟨second.value, second.vm, first.calls ++ second.calls, first.effects ++ second.effects⟩ := rfl

instance : LawfulMonad (VmM σ) := LawfulMonad.mk' (VmM σ)
  (fun x => by
    funext vm
    show Transition.mk (x vm).value (x vm).vm ((x vm).calls ++ []) ((x vm).effects ++ []) = x vm
    simp only [List.append_nil])
  (fun _ _ => rfl)
  (fun x f g => by
    funext vm
    simp [bind_apply])

/-- The virtual CPU as it is. -/
def get : VmM σ (Vm σ) := fun vm => ⟨vm, vm, [], []⟩

/-- Changes the virtual CPU without any effect on the guest. -/
def modify (f : Vm σ → Vm σ) : VmM σ Unit := fun vm => ⟨(), f vm, [], []⟩

/-- Tells the log something, line by line. -/
def tell (notices : List Notice) : VmM σ Unit := fun vm => ⟨(), vm, [], notices.map .report⟩

/-- Works on the machine. -/
def onMachine (x : ExitM α) : VmM σ α := fun vm =>
  let o := x vm.machine
  ⟨o.value, { vm with machine := vm.machine.perform o.effects }, [], o.effects⟩

@[simp] theorem value_bind (x : VmM σ α) (f : α → VmM σ β) (vm : Vm σ) :
    ((x >>= f) vm).value = (f (x vm).value (x vm).vm).value := rfl

@[simp] theorem vm_bind (x : VmM σ α) (f : α → VmM σ β) (vm : Vm σ) :
    ((x >>= f) vm).vm = (f (x vm).value (x vm).vm).vm := rfl

@[simp] theorem calls_bind (x : VmM σ α) (f : α → VmM σ β) (vm : Vm σ) :
    ((x >>= f) vm).calls = (x vm).calls ++ (f (x vm).value (x vm).vm).calls := rfl

@[simp] theorem effects_bind (x : VmM σ α) (f : α → VmM σ β) (vm : Vm σ) :
    ((x >>= f) vm).effects = (x vm).effects ++ (f (x vm).value (x vm).vm).effects := rfl

@[simp] theorem map_apply (f : α → β) (x : VmM σ α) (vm : Vm σ) :
    (f <$> x) vm = ⟨f (x vm).value, (x vm).vm, (x vm).calls, (x vm).effects⟩ := by
  show Transition.mk (f (x vm).value) (x vm).vm ((x vm).calls ++ []) ((x vm).effects ++ []) = _
  simp only [List.append_nil]

@[simp] theorem get_apply (vm : Vm σ) : get vm = ⟨vm, vm, [], []⟩ := rfl

@[simp] theorem modify_apply (f : Vm σ → Vm σ) (vm : Vm σ) :
    modify f vm = ⟨(), f vm, [], []⟩ := rfl

@[simp] theorem tell_apply (notices : List Notice) (vm : Vm σ) :
    tell notices vm = ⟨(), vm, [], notices.map .report⟩ := rfl

@[simp] theorem onMachine_apply (x : ExitM α) (vm : Vm σ) :
    onMachine x vm = ⟨(x vm.machine).value, { vm with machine := x.final vm.machine }, [],
      (x vm.machine).effects⟩ := rfl

/-- Has the given virtualizer handle an exit. -/
def handle : Route → VmM σ (Except ExitError Bool)
  | .controlRegister => fun vm =>
    let o := vm.controlRegister.handle vm.machine
    ⟨o.value.result,
      { vm with
        machine := vm.machine.perform o.effects
        controlRegister := o.value.virtualizer },
      o.value.calls.map fun c => .access c.1 c.2, o.effects⟩
  | .externalInterrupt => fun vm =>
    let o := vm.interrupt.handle vm.machine
    ⟨o.value.result,
      { vm with
        machine := vm.machine.perform o.effects
        interrupt := o.value.virtualizer },
      o.value.calls.map .interrupt, o.effects⟩

end VmM

namespace Vm

variable {σ : Type}

/-- Brings up a virtual CPU with both virtualizers registered and nothing exiting yet. The log is
told about the routes. -/
def create (machine : Machine) : Vm σ × List Notice :=
  let first := ({} : Routes).construct .controlRegister
  let second := first.routes.construct .externalInterrupt
  ({ machine, routes := second.routes }, first.told ++ second.told)

/-- Puts the records of both virtualizers into the log. -/
def dump (vm : Vm σ) : List Notice :=
  vm.controlRegister.dump ++ vm.interrupt.dump

/-- What the log is told when the virtual CPU is given up. -/
def retire (vm : Vm σ) : List Notice :=
  vm.controlRegister.retire ++ vm.interrupt.retire

end Vm

end GuestExit
