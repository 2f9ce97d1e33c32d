import GuestExit.Proofs.Vm.Decision
import GuestExit.Vm.Step

/-!
# What work on a virtual CPU keeps

Taking an exit is put together from a few building blocks: looking at the machine and the
routes, telling the log something, and the handling of the exit by a virtualizer. A property
of work on a virtual CPU is `Compositional` if looking and telling have it and if it goes
through sequences, whatever value the first piece hands to the second. Such a property holds
of all of taking an exit once it holds of the two virtualizers (`Compositional.resolve`), and
the functions between them never have to be looked at again.

The first of these properties is to leave something alone. A part of a virtual CPU that no
piece of a program touches is not touched by the program; `Keeps f x` says that of the part
that `f` looks at.
-/

namespace GuestExit

namespace VmM

variable {σ α β γ : Type}

/-! ## Properties that go through sequences -/

/-- A property that looking at a virtual CPU has, and work in sequence if each piece has it. -/
structure Compositional (P : ∀ {α : Type}, VmM σ α → Prop) : Prop where
  /-- It goes through sequences. -/
  bind : ∀ {α β : Type} {x : VmM σ α} {f : α → VmM σ β}, P x → (∀ a, P (f a)) → P (x >>= f)
  /-- Answering has it. -/
  answer : ∀ {α : Type} (a : α), P (pure a)
  /-- What goes on may depend on the control structure and the routes. -/
  look : ∀ {β : Type} {f : Vm σ → VmM σ β},
    (∀ vm vm', vm.machine.vmcs = vm'.machine.vmcs → vm.routes = vm'.routes → f vm = f vm') →
    (∀ vm, P (f vm)) → P (get >>= f)
  /-- Work that reads the control structure and does nothing to the machine has it. -/
  read : ∀ {α : Type} {x : ExitM α}, (∀ m, (x m).effects = []) →
    (∀ m m', m.vmcs = m'.vmcs → (x m).value = (x m').value) → P (onMachine x)
  /-- Telling the log has it, as long as that is not a record. -/
  tell : ∀ {ns : List Notice}, (∀ line, .recorded line ∉ ns) → P (tell ns)

theorem value_unclaimed_congr (m m' : Machine) (h : m.vmcs = m'.vmcs) :
    (ExitM.unclaimed m).value = (ExitM.unclaimed m').value := by
  unfold ExitM.unclaimed
  rw [ExitM.value_bind, ExitM.value_bind, ExitM.value_read, ExitM.value_read, h]
  cases Qualification.decode (m'.vmcs.read .exitQualification) <;> rfl

namespace Compositional

variable {P : ∀ {α : Type}, VmM σ α → Prop}

theorem handleExit (hP : Compositional P) (hh : ∀ route, P (handle route)) (reason : Reason) :
    P (handleExit reason) := by
  refine hP.look (fun vm vm' _ hr => by rw [hr]) fun vm => ?_
  cases vm.routes.lookup reason with
  | none => exact hP.answer _
  | some route => exact hh route

theorem settle (hP : Compositional P) (hh : ∀ route, P (handle route)) (reason : Reason) :
    P (settle reason) := by
  refine hP.bind (hP.tell (by simp)) fun _ => hP.bind (hP.handleExit hh reason) fun result => ?_
  cases result with
  | error e => exact hP.answer _
  | ok claimed =>
    cases claimed with
    | true => exact hP.answer _
    | false => exact hP.bind (hP.read effects_unclaimed value_unclaimed_congr) fun _ => hP.answer _

theorem settleWord (hP : Compositional P) (hh : ∀ route, P (handle route)) (word : UInt32) :
    P (settleWord word) := by
  unfold VmM.settleWord
  cases Reason.ofWord? word with
  | none => exact hP.answer _
  | some reason => exact hP.settle hh reason

/-- **A decision has what both virtualizers have.** -/
theorem resolve (hP : Compositional P) (hh : ∀ route, P (handle route)) : P resolve := by
  refine hP.bind (hP.read (fun _ => rfl) fun m m' h => ?_) fun word =>
    hP.bind (hP.settleWord hh _) fun result => ?_
  · exact congrArg (Vmcs.read · .exitReason) h
  cases result with
  | ok _ => exact hP.answer _
  -- the report looks at the control structure, and at nothing else
  | error e =>
    refine hP.look (fun vm vm' hm _ => ?_) fun vm => ?_
    · unfold ExitError.report
      rw [hm]
    exact hP.bind (hP.tell (by simp [ExitError.report])) fun _ => hP.answer _

end Compositional

/-! ## Leaving something alone -/

/-- Work that leaves alone the part of the virtual CPU that `f` looks at. -/
def Keeps (f : Vm σ → γ) (x : VmM σ α) : Prop :=
  ∀ vm, f (x vm).vm = f vm

variable {f : Vm σ → γ}

/-- **Two pieces of work in sequence keep what both keep.** -/
theorem Keeps.bind {x : VmM σ α} {g : α → VmM σ β} (hx : Keeps f x) (hg : ∀ a, Keeps f (g a)) :
    Keeps f (x >>= g) := fun vm =>
  (hg (x vm).value (x vm).vm).trans (hx vm)

theorem Keeps.answer {x : VmM σ α} (hx : Keeps f x) (g : α → β) :
    Keeps f (x >>= fun a => pure (g a)) :=
  hx.bind fun _ _ => rfl

theorem compositional_keeps (f : Vm σ → γ) : Compositional (Keeps f) where
  bind := Keeps.bind
  answer _ _ := rfl
  look _ hf vm := hf vm vm
  read {_ x} hx _ vm := by
    rw [onMachine_apply, ExitM.final, hx]
    rfl
  tell _ _ := rfl

/-- A halt keeps what the virtualizers keep, if it does not depend on whether they record. -/
theorem keeps_exit (hh : ∀ route, Keeps f (handle route))
    (hl : ∀ vm : Vm σ, f { vm with
      controlRegister := vm.controlRegister.setLogging false
      interrupt := vm.interrupt.setLogging false } = f vm) : Keeps f exit := by
  refine ((compositional_keeps f).resolve hh).bind fun flow => ?_
  cases flow with
  | resume => exact fun _ => rfl
  | stop => exact fun vm => hl vm

end VmM

end GuestExit
