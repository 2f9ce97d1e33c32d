import GuestExit.Proofs.Chain.Layers
import GuestExit.Proofs.Vm.Fatal
import GuestExit.Proofs.Vm.Resume

/-!
# One exit, one chain

A virtual CPU has five chains of handlers, four for accesses to control registers and one for
interrupts, with three lists of records and a table of counters beside them. An exit
concerns one chain at most: the one that its question is put before. What belongs to the
others is not looked at and stays what it was.

`Confined` says so of a whole transition, for every part that a virtual CPU has. The machine
is left out, for handlers may do to it what they like; of the chain that is asked,
everything stays but the private states of the handlers. Which list gets a record, and which
counter goes up, is read off the question alone. It does not depend on the chain: reads and
writes of CR3 have a chain each and one list.
-/

namespace GuestExit

open ControlRegister (Trap ExitRecord)

variable {σ α β : Type}

/-- What handlers decide about: the accesses of a trap, or interrupts. There is a chain for each. -/
inductive Category where
  | access (t : Trap)
  | interrupt
  deriving DecidableEq, Repr

/-- What the handlers of a category are given. -/
def Category.Info : Category → Type
  | .access _ => ControlRegister.Descriptor
  | .interrupt => Interrupt.Descriptor

/-- The category of a handler that was called. -/
def Called.category : Called σ → Category
  | .access t _ => .access t
  | .interrupt _ => .interrupt

/-- The category of the handlers that a question is for. -/
def Question.category : Question → Category
  | .access t _ => .access t
  | .interrupt => .interrupt

namespace Vm

/-- The handlers of a category. -/
def chain (vm : Vm σ) : (c : Category) → Chain σ c.Info
  | .access t => vm.controlRegister.chains.get t
  | .interrupt => vm.interrupt.handlers

/-- What is added to the records of a register if a question is put before the handlers: while
recording is on, one record of what they made of an access to that register. -/
def added (vm : Vm σ) (reg : ControlReg) : Option Question → List ExitRecord
  | some (.access t g) =>
    let info := (vm.controlRegister.ask t g vm.machine).value.info
    if vm.controlRegister.logging ∧ t.access.register = reg then [⟨info.value, info.shadow⟩] else []
  | _ => []

/-- What is added to the counter of a vector if a question is put before the handlers: while
counting is on, one if the interrupt has that vector. -/
def counted (vm : Vm σ) (w : UInt8) : Option Question → UInt64
  | some .interrupt =>
    if vm.interrupt.logging ∧ (Interrupt.initial vm.machine).vector = w then 1 else 0
  | _ => 0

end Vm

theorem Chain.length_of_react {ι : Type} {a b : Chain σ ι}
    (h : a.map (·.react) = b.map (·.react)) : a.length = b.length := by
  simpa using congrArg List.length h

/-- A transition from `vm` that concerns no more than the question `q` does, if there is any. -/
structure Confined (vm : Vm σ) (q : Option Question) (t : Transition σ α) : Prop where
  /-- All handlers called stand in one chain, the one that the question is for. -/
  calls : ∀ c ∈ t.calls, q.map Question.category = some c.category
  /-- The other chains stay as they are, with the private states of their handlers. -/
  others : ∀ c, q.map Question.category ≠ some c → t.vm.chain c = vm.chain c
  /-- In the one that is asked no handler changes but in its private state: the same react, -/
  handlers : ∀ c, (t.vm.chain c).map (·.react) = (vm.chain c).map (·.react)
  /-- and as many. -/
  lengths : ∀ c, (t.vm.chain c).length = (vm.chain c).length
  /-- No list of records changes but that of the register accessed, which may get one more. -/
  records : ∀ reg, (t.vm.controlRegister.log.get reg).toList
    = (vm.controlRegister.log.get reg).toList ++ vm.added reg q
  /-- No counter changes but that of the vector acknowledged, which may go up by one. -/
  counts : ∀ w, t.vm.interrupt.counts.get w = vm.interrupt.counts.get w + vm.counted w q
  /-- Recording stays on or off, -/
  recording : t.vm.controlRegister.logging = vm.controlRegister.logging
  /-- and so does counting. -/
  counting : t.vm.interrupt.logging = vm.interrupt.logging
  /-- The routes stay. -/
  routes : t.vm.routes = vm.routes

namespace Confined

variable {vm : Vm σ} {q : Option Question}

theorem nothing (vm : Vm σ) (a : α) : Confined vm none ⟨a, vm, [], []⟩ where
  calls := by simp
  others _ _ := rfl
  handlers _ := rfl
  lengths _ := rfl
  records _ := (List.append_nil _).symm
  counts _ := (UInt64.add_zero _).symm
  recording := rfl
  counting := rfl
  routes := rfl

/-- What is confined depends on the handlers called and the virtual CPU left, and on nothing
else. -/
theorem congr {t : Transition σ α} {u : Transition σ β} (h : Confined vm q t) (hvm : u.vm = t.vm)
    (hcalls : u.calls = t.calls) : Confined vm q u := by
  obtain ⟨calls, others, handlers, lengths, records, counts, recording, counting, routes⟩ := h
  rw [← hvm] at others handlers lengths records counts recording counting routes
  rw [← hcalls] at calls
  exact ⟨calls, others, handlers, lengths, records, counts, recording, counting, routes⟩

end Confined

/-! ## What a virtualizer concludes -/

namespace ControlRegister.Virtualizer

theorem react_conclude (v : Virtualizer σ) (t : Trap) (g : Gpr) (m : Machine) (u : Trap) :
    ((v.conclude t (v.ask t g m).value).chains.get u).map (·.react)
      = (v.chains.get u).map (·.react) := by
  have hchain : (v.conclude t (v.ask t g m).value).chains.get u
      = if u = t then (v.ask t g m).value.chain else v.chains.get u := PerTrap.get_set ..
  rw [hchain]
  split
  · next e =>
    rw [e]
    exact Chain.react_dispatch ..
  · rfl

theorem records_conclude (v : Virtualizer σ) (t : Trap) (d : Dispatch σ Descriptor)
    (reg : ControlReg) :
    ((v.conclude t d).log.get reg).toList = (v.log.get reg).toList
      ++ if v.logging ∧ t.access.register = reg then [⟨d.info.value, d.info.shadow⟩] else [] := by
  unfold conclude
  cases v.logging with
  | false => simp
  | true =>
    by_cases e : t.access.register = reg
    · simp [ExitLog.get_push, e, ExitRecord.ofDescriptor]
    · have e' : ¬ reg = t.access.register := fun h => e h.symm
      simp [ExitLog.get_push, e, e']

end ControlRegister.Virtualizer

namespace VmM

/-! ## The virtualizers -/

theorem access_confined {vm : Vm σ} {t : Trap} {g : Gpr}
    (h : Trap.ofWord? vm.qualificationWord = some (t, g)) :
    Confined vm (some (.access t g)) (handle .controlRegister vm) := by
  have hvalue := ControlRegister.Virtualizer.value_handle (v := vm.controlRegister) h
  rw [handle_controlRegister]
  dsimp only
  rw [hvalue]
  have hhandlers := ControlRegister.Virtualizer.react_conclude vm.controlRegister t g vm.machine
  refine
    { calls := fun c hc => ?_
      others := fun c hc => ?_
      handlers := fun c => ?_
      lengths := fun c => ?_
      records := fun reg => ControlRegister.Virtualizer.records_conclude vm.controlRegister t _ reg
      counts := fun _ => (UInt64.add_zero _).symm
      recording := rfl
      counting := rfl
      routes := rfl }
  -- every call is labelled with the trap of the chain that was asked
  · obtain ⟨p, hp, rfl⟩ := List.mem_map.mp hc
    obtain ⟨c', -, rfl⟩ := List.mem_map.mp hp
    rfl
  · cases c with
    | interrupt => rfl
    | access u =>
      have hne : u ≠ t := fun e => hc (e ▸ rfl)
      exact (ControlRegister.PerTrap.get_set ..).trans (if_neg hne)
  · cases c with
    | interrupt => rfl
    | access u => exact hhandlers u
  · cases c with
    | interrupt => rfl
    | access u => exact Chain.length_of_react (hhandlers u)

/-- Whatever an exit is, the virtualizer of control registers confines it to one chain at most. -/
theorem handle_access_confined (vm : Vm σ) :
    Confined vm (vm.asks .controlRegister) (handle .controlRegister vm) := by
  unfold Vm.asks
  cases h : Trap.ofWord? vm.qualificationWord with
  | some p => exact access_confined h
  | none =>
    obtain ⟨-, hvm, hcalls, -⟩ := handle_of_untrapped h
    exact (Confined.nothing vm ()).congr hvm hcalls

theorem handle_interrupt_confined (vm : Vm σ) :
    Confined vm (vm.asks .externalInterrupt) (handle .externalInterrupt vm) := by
  have ha := vm.interrupt.handle_answers vm.machine
  rw [handle_externalInterrupt]
  have hhandlers : ((vm.interrupt.handle vm.machine).value.virtualizer.handlers).map (·.react)
      = vm.interrupt.handlers.map (·.react) := by
    rw [ha.handlers]
    exact Chain.react_dispatch ..
  refine
    { calls := fun c hc => ?_
      others := fun c hc => ?_
      handlers := fun c => ?_
      lengths := fun c => ?_
      records := fun _ => (List.append_nil _).symm
      counts := fun w => ?_
      recording := rfl
      counting := ha.logging
      routes := rfl }
  · obtain ⟨c', -, rfl⟩ := List.mem_map.mp hc
    rfl
  · cases c with
    | access => rfl
    | interrupt => exact absurd rfl hc
  · cases c with
    | access => rfl
    | interrupt => exact hhandlers
  · cases c with
    | access => rfl
    | interrupt => exact Chain.length_of_react hhandlers
  · dsimp only
    rw [ha.counts]
    unfold Vm.asks Vm.counted
    cases vm.interrupt.logging with
    | false => simp
    | true =>
      by_cases e : (Interrupt.initial vm.machine).vector = w
      · simp [Interrupt.Counts.get_bump, e]
      · have e' : ¬ w = (Interrupt.initial vm.machine).vector := fun h => e h.symm
        simp [Interrupt.Counts.get_bump, e, e']

/-- **An exit is confined by the virtualizer that handles it.** -/
theorem handle_confined (route : Route) (vm : Vm σ) :
    Confined vm (vm.asks route) (handle route vm) := by
  cases route with
  | controlRegister => exact handle_access_confined vm
  | externalInterrupt => exact handle_interrupt_confined vm

/-! ## The three ways of taking an exit -/

/--
**One exit, one chain.** Whichever way an exit is taken (by a virtualizer itself, routed by a
reason, or with the reason that the machine gives, down to the decision), it is confined to
the one question that it asks, if it asks any.
-/
theorem exit_confined (vm : Vm σ) :
    (∀ route, Confined vm (vm.asks route) (handle route vm))
      ∧ (∀ reason, Confined vm ((vm.routes.lookup reason).bind vm.asks) (handleExit reason vm))
      ∧ Confined vm vm.question? (resolve vm) := by
  refine ⟨fun route => handle_confined route vm, fun reason => ?_, ?_⟩
  · cases h : vm.routes.lookup reason with
    | none =>
      rw [handleExit_of_unrouted h]
      exact .nothing vm _
    | some route =>
      rw [handleExit_of_routed h]
      exact handle_confined route vm
  -- deciding calls the handlers that the virtualizer calls, and leaves what it leaves
  · obtain ⟨-, hvm, hcalls, -⟩ := resolve_follows vm
    rw [Vm.question?_eq_bind]
    refine Confined.congr (t := vm.handled) ?_ hvm hcalls
    cases h : vm.routed with
    | none =>
      rw [Vm.handled_of_unrouted h]
      exact .nothing vm _
    | some route =>
      rw [Vm.handled_of_routed h]
      exact handle_confined route vm

end VmM

end GuestExit
