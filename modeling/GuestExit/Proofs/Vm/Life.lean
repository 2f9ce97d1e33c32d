import GuestExit.Proofs.Vm.Decision
import GuestExit.Vm.Step

/-!
# The life of a virtualizer

A virtual CPU can take some twenty kinds of steps, but only four things ever happen to
one of its virtualizers: a handler is registered, recording is switched, an exit is
handled, and the virtualizer makes room for a new one. `Incident` lists them, and a
`Station` says which of them a step amounts to, with the proof that nothing else
happens. There are two, `accesses` and `interrupts`; here, and nowhere else, are the
kinds of steps gone through one by one.

What a virtualizer must remember is a claim about its whole past, and the past is not
part of the virtualizer. `Life` keeps it beside: the exits that were handled since the
virtualizer was put in place, each with the virtualizer and the machine as they were,
and with whether recording was on. That switch is read off the calls that flip it, not
off the virtualizer. What the virtualizer does remember can then be compared with what
it should.
-/

namespace GuestExit

open ControlRegister (Trap)

variable {σ η ν : Type}

/-- Something that happens to a virtualizer. Handlers are registered with it as `η`. -/
inductive Incident (η : Type) where
  /-- A handler is registered. -/
  | registered (handler : η)
  /-- Recording is switched on or off. -/
  | switched (on : Bool)
  /-- An exit is handled, on the machine as it is then. -/
  | exited (m : Machine)
  /-- A new virtualizer takes its place. -/
  | replaced

/-- The virtualizer of control register accesses after something happened to it. -/
def ControlRegister.Virtualizer.undergo (v : Virtualizer σ) :
    Incident (Trap × Handler σ Descriptor) → Virtualizer σ
  | .registered h => v.register h.1 h.2
  | .switched on => v.setLogging on
  | .exited m => (v.handle m).value.virtualizer
  | .replaced => {}

/-- The virtualizer of external interrupts after something happened to it. -/
def Interrupt.Virtualizer.undergo (v : Virtualizer σ) :
    Incident (Handler σ Descriptor) → Virtualizer σ
  | .registered h => v.register h
  | .switched on => v.setLogging on
  | .exited m => (v.handle m).value.virtualizer
  | .replaced => {}

/-! ## Steps that take an exit -/

namespace Step

/-- Whether a step takes an exit. -/
def takesExit : Step σ → Bool
  | .handle _ | .handleExit _ | .resolve | .exit => true
  | _ => false

/-- The answer to a step that takes an exit, if the exit is claimed. No other step has anything to
accept. -/
def accepted : Step σ → Answer
  | .handle _ | .handleExit _ => .claimed (.ok true)
  | .resolve => .flow .resume
  | .exit => .halted (.ok ())
  | _ => .done

/-- The virtualizer that a step replaces, if it replaces one. -/
def replaces : Step σ → Option Route
  | .replace which => some which
  | _ => none

theorem eq_replace_of_replaces {s : Step σ} {which : Route} (h : s.replaces = some which) :
    s = .replace which := by
  cases s with
  | replace route => exact congrArg Step.replace (Option.some.inj h)
  | _ => exact absurd h (by simp [replaces])

end Step

namespace Vm

/-- The virtualizer that handles an exit in a step, if one does. -/
def serves (vm : Vm σ) : Step σ → Option Route
  | .handle which => some which
  | .handleExit reason => vm.routes.lookup reason
  | .resolve | .exit => vm.routed
  | _ => none

/-- What that virtualizer makes of the exit. -/
def service (vm : Vm σ) (s : Step σ) : Transition σ (Except ExitError Bool) :=
  match vm.serves s with
  | some route => VmM.handle route vm
  | none => ⟨.error .unroutedExit, vm, [], []⟩

/-- Whether a step halts the processor. -/
def halts (vm : Vm σ) : Step σ → Bool
  | .exit => (VmM.resolve vm).value = .stop
  | _ => false

/-- The virtual CPU with both virtualizers no longer recording. -/
def silenced (vm : Vm σ) : Vm σ :=
  { vm with
    controlRegister := vm.controlRegister.setLogging false
    interrupt := vm.interrupt.setLogging false }

theorem service_of_serves {vm : Vm σ} {s : Step σ} {route : Route} (h : vm.serves s = some route) :
    vm.service s = VmM.handle route vm := by
  unfold service
  rw [h]

theorem service_of_unserved {vm : Vm σ} {s : Step σ} (h : vm.serves s = none) :
    vm.service s = ⟨.error .unroutedExit, vm, [], []⟩ := by
  unfold service
  rw [h]

theorem takesExit_of_serves {vm : Vm σ} {s : Step σ} {route : Route}
    (h : vm.serves s = some route) : s.takesExit = true := by
  cases s with
  | handle | handleExit | resolve | exit => rfl
  | _ => exact absurd h (by simp [serves])

end Vm

namespace VmM

theorem handleExit_eq_service (reason : Reason) (vm : Vm σ) :
    handleExit reason vm = vm.service (.handleExit reason) := by
  cases h : vm.routes.lookup reason with
  | none => rw [handleExit_of_unrouted h, Vm.service_of_unserved (s := .handleExit reason) h]
  | some route => rw [handleExit_of_routed h, Vm.service_of_serves (s := .handleExit reason) h]

theorem exit_of_resume {vm : Vm σ} (h : (resolve vm).value = .resume) :
    exit vm = ⟨.ok (), (resolve vm).vm, (resolve vm).calls, (resolve vm).effects⟩ := by
  simp [exit, bind_apply, h]

theorem exit_of_stop {vm : Vm σ} (h : (resolve vm).value = .stop) :
    exit vm = ⟨.error .unrecoverable, (resolve vm).vm.silenced, (resolve vm).calls,
      (resolve vm).effects ++ (resolve vm).vm.dump.map .report⟩ := by
  simp [exit, bind_apply, h, Vm.silenced]

theorem vm_exit (vm : Vm σ) :
    (exit vm).vm = if (resolve vm).value = .stop then vm.handled.vm.silenced else vm.handled.vm := by
  rw [← (resolve_follows vm).vm]
  cases h : (resolve vm).value with
  | resume => rw [exit_of_resume h]; rfl
  | stop => rw [exit_of_stop h]; rfl

theorem calls_exit (vm : Vm σ) : (exit vm).calls = vm.handled.calls := by
  rw [← (resolve_follows vm).calls]
  cases h : (resolve vm).value with
  | resume => rw [exit_of_resume h]
  | stop => rw [exit_of_stop h]

theorem changes_exit (vm : Vm σ) : changes (exit vm).effects = changes vm.handled.effects := by
  rw [← (resolve_follows vm).changes]
  cases h : (resolve vm).value with
  | resume => rw [exit_of_resume h]
  | stop => simp [exit_of_stop h]

variable [Inhabited σ]

/-- **A step that takes an exit** leaves the virtual CPU as the virtualizer did that served it, with
nothing recording any more if the processor halts. -/
theorem vm_step_of_takesExit {s : Step σ} (h : s.takesExit = true) (vm : Vm σ) :
    (step s vm).vm = if vm.halts s then (vm.service s).vm.silenced else (vm.service s).vm := by
  cases s with
  | handle which => rfl
  | handleExit reason => exact congrArg Transition.vm (handleExit_eq_service reason vm)
  | resolve => exact (resolve_follows vm).vm
  | exit =>
    refine (vm_exit vm).trans ?_
    unfold Vm.halts
    simp only [decide_eq_true_eq]
    rfl
  | _ => exact absurd h (by simp [Step.takesExit])

theorem changes_step_of_takesExit {s : Step σ} (h : s.takesExit = true) (vm : Vm σ) :
    changes (step s vm).effects = changes (vm.service s).effects := by
  cases s with
  | handle which => exact congrArg changes (List.append_nil _)
  | handleExit reason =>
    rw [← handleExit_eq_service]
    exact congrArg changes (List.append_nil _)
  | resolve =>
    exact (congrArg changes (List.append_nil _)).trans (resolve_follows vm).changes
  | exit => exact (congrArg changes (List.append_nil _)).trans (changes_exit vm)
  | _ => exact absurd h (by simp [Step.takesExit])

/-- The machine that a step leaves which takes an exit is the one that its effects lead to. -/
theorem machine_step_of_takesExit {s : Step σ} (h : s.takesExit = true) (vm : Vm σ) :
    (step s vm).vm.machine = vm.machine.perform (step s vm).effects := by
  have hservice : (vm.service s).vm.machine = vm.machine.perform (vm.service s).effects := by
    cases hs : vm.serves s with
    | none => rw [Vm.service_of_unserved hs]; rfl
    | some route =>
      rw [Vm.service_of_serves hs]
      cases route <;> rfl
  rw [vm_step_of_takesExit h, vm.machine.perform_congr (changes_step_of_takesExit h vm), ← hservice]
  split <;> rfl

theorem calls_step (s : Step σ) (vm : Vm σ) : (step s vm).calls = (vm.service s).calls := by
  cases s with
  | handle which => exact List.append_nil _
  | handleExit reason =>
    rw [← handleExit_eq_service]
    exact List.append_nil _
  | resolve => exact (List.append_nil _).trans (resolve_follows vm).calls
  | exit => exact (List.append_nil _).trans (calls_exit vm)
  | setLogging which on => cases which <;> rfl
  | dump which => cases which <;> rfl
  | replace which => cases which <;> rfl
  | _ => rfl

/-- **An exit that is claimed is accepted**, however it was taken. -/
theorem value_step_of_claimed {s : Step σ} {vm : Vm σ} (h : s.takesExit = true)
    (hc : (vm.service s).value = .ok true) : (step s vm).value = s.accepted := by
  cases s with
  | handle which => exact congrArg Answer.claimed hc
  | handleExit reason =>
    rw [← handleExit_eq_service] at hc
    exact congrArg Answer.claimed hc
  | resolve => exact congrArg Answer.flow ((resolve_follows vm).value.mpr hc)
  | exit =>
    have hresume : (resolve vm).value = .resume := (resolve_follows vm).value.mpr hc
    have hexit : (exit vm).value = .ok () := by rw [exit_of_resume hresume]
    exact congrArg Answer.halted hexit
  | _ => exact absurd h (by simp [Step.takesExit])

omit [Inhabited σ] in
theorem halts_of_claimed {s : Step σ} {vm : Vm σ} (hc : (vm.service s).value = .ok true) :
    vm.halts s = false := by
  cases s with
  | exit =>
    have hresume : (resolve vm).value = .resume := (resolve_follows vm).value.mpr hc
    simp [Vm.halts, hresume]
  | _ => rfl

/-- **A step in which a virtualizer claims the exit** is accepted, and does what the virtualizer
does and nothing else. -/
theorem step_of_claimed {s : Step σ} {vm : Vm σ} {route : Route} (hs : vm.serves s = some route)
    (hc : (handle route vm).value = .ok true) :
    (step s vm).value = s.accepted ∧ (step s vm).vm = (handle route vm).vm
      ∧ changes (step s vm).effects = changes (handle route vm).effects := by
  have htakes := Vm.takesExit_of_serves hs
  have hservice := Vm.service_of_serves hs
  rw [← hservice] at hc ⊢
  refine ⟨value_step_of_claimed htakes hc, ?_, changes_step_of_takesExit htakes vm⟩
  rw [vm_step_of_takesExit htakes, halts_of_claimed hc]
  rfl

end VmM

/-! ## Stations -/

namespace Vm

/-- What a step does to the virtualizer at `which`, in order, if `registers` is the handler that the
step registers there. -/
def incidents (vm : Vm σ) (which : Route) (registers : Step σ → Option η) (s : Step σ) :
    List (Incident η) :=
  if s.takesExit then
    (if vm.serves s = some which then [.exited vm.machine] else [])
      ++ if vm.halts s then [.switched false] else []
  else
    match s with
    | .setLogging route on => if route = which then [.switched on] else []
    | .replace route => if route = which then [.replaced] else []
    | s => (registers s).toList.map .registered

theorem incidents_of_takesExit {s : Step σ} (h : s.takesExit = true) (vm : Vm σ) (which : Route)
    (registers : Step σ → Option η) :
    vm.incidents which registers s
      = (if vm.serves s = some which then [.exited vm.machine] else [])
        ++ if vm.halts s then [.switched false] else [] := by
  unfold incidents
  rw [if_pos h]

theorem replaced_mem_incidents {vm : Vm σ} {which : Route} {registers : Step σ → Option η}
    {s : Step σ} (h : .replaced ∈ vm.incidents which registers s) : s = .replace which := by
  unfold incidents at h
  split at h
  · rcases List.mem_append.mp h with h' | h' <;> split at h' <;> simp at h'
  · split at h
    · split at h <;> simp at h
    · split at h
      · next e => rw [e]
      · simp at h
    · simp at h

theorem registered_mem_incidents {vm : Vm σ} {which : Route} {registers : Step σ → Option η}
    {s : Step σ} {handler : η} (h : .registered handler ∈ vm.incidents which registers s) :
    registers s = some handler := by
  unfold incidents at h
  split at h
  · rcases List.mem_append.mp h with h' | h' <;> split at h' <;> simp at h'
  · split at h
    · split at h <;> simp at h
    · split at h <;> simp at h
    · simpa using h

theorem switched_on_mem_incidents {vm : Vm σ} {which : Route} {registers : Step σ → Option η}
    {s : Step σ} (h : .switched true ∈ vm.incidents which registers s) :
    s = .setLogging which true := by
  unfold incidents at h
  split at h
  -- a halt switches too, but off
  · rcases List.mem_append.mp h with h' | h' <;> split at h' <;> simp at h'
  · split at h
    · split at h
      · next e => simpa [e, eq_comm] using h
      · simp at h
    · split at h <;> simp at h
    · simp at h

/-- A step that takes an exit does to a virtualizer what serving the exit does to it, and after a
halt it no longer records. -/
theorem get_step_of_takesExit [Inhabited σ] (get : Vm σ → ν) (undergo : ν → Incident η → ν)
    (which : Route) (registers : Step σ → Option η)
    (hserved : ∀ vm, get (VmM.handle which vm).vm = undergo (get vm) (.exited vm.machine))
    (hunserved : ∀ vm route, route ≠ which → get (VmM.handle route vm).vm = get vm)
    (hsilenced : ∀ vm, get vm.silenced = undergo (get vm) (.switched false))
    (vm : Vm σ) {s : Step σ} (h : s.takesExit = true) :
    get (VmM.step s vm).vm = (vm.incidents which registers s).foldl undergo (get vm) := by
  have hs : get (vm.service s).vm = ((if vm.serves s = some which
      then [.exited vm.machine] else []) : List (Incident η)).foldl undergo (get vm) := by
    cases hroute : vm.serves s with
    | none => rw [service_of_unserved hroute]; rfl
    | some route =>
      rw [service_of_serves hroute]
      by_cases e : route = which
      · subst e
        simp [hserved]
      · simp [hunserved vm route e, e]
  rw [VmM.vm_step_of_takesExit h, incidents_of_takesExit h, List.foldl_append, ← hs]
  cases vm.halts s with
  | true => exact hsilenced _
  | false => rfl

end Vm

/-- The place that a virtualizer has in a virtual CPU, and what happens to it there. -/
structure Station (σ ν η : Type) [Inhabited σ] where
  /-- The virtualizer as it is. -/
  get : Vm σ → ν
  /-- What it becomes if something happens to it. -/
  undergo : ν → Incident η → ν
  /-- Where exits are sent for it to handle them. -/
  route : Route
  /-- The handler that a step registers with it, if it does. -/
  registers : Step σ → Option η
  /-- Nothing happens to it in a step but the incidents. -/
  get_step : ∀ vm s,
    get (VmM.step s vm).vm = (vm.incidents route registers s).foldl undergo (get vm)

variable [Inhabited σ]

/-- The place of the virtualizer of control register accesses. -/
def accesses :
    Station σ (ControlRegister.Virtualizer σ) (Trap × Handler σ ControlRegister.Descriptor) where
  get vm := vm.controlRegister
  undergo := ControlRegister.Virtualizer.undergo
  route := .controlRegister
  registers
    | .addAccessHandler trap handler => some (trap, handler)
    | _ => none
  get_step vm s := by
    cases s with
    | handle | handleExit | resolve | exit =>
      exact Vm.get_step_of_takesExit Vm.controlRegister _ _ _ (fun _ => rfl)
        (fun _ route h => by cases route <;> first | rfl | contradiction) (fun _ => rfl) vm rfl
    | setLogging which | dump which | replace which => cases which <;> rfl
    | _ => rfl

/-- The place of the virtualizer of external interrupts. -/
def interrupts :
    Station σ (Interrupt.Virtualizer σ) (Handler σ Interrupt.Descriptor) where
  get vm := vm.interrupt
  undergo := Interrupt.Virtualizer.undergo
  route := .externalInterrupt
  registers
    | .addInterruptHandler handler => some handler
    | .addReinjection => some (.stateless Interrupt.reinject)
    | _ => none
  get_step vm s := by
    cases s with
    | handle | handleExit | resolve | exit =>
      exact Vm.get_step_of_takesExit Vm.interrupt _ _ _ (fun _ => rfl)
        (fun _ route h => by cases route <;> first | rfl | contradiction) (fun _ => rfl) vm rfl
    | setLogging which | dump which | replace which => cases which <;> rfl
    | _ => rfl

namespace Station

variable (p : Station σ ν η)

/-- What a step does to the virtualizer, in order. -/
def incidents (vm : Vm σ) (s : Step σ) : List (Incident η) :=
  vm.incidents p.route p.registers s

/-- **Handling an exit is all that a step does** to what neither registering handlers nor switching
recording touches, as long as the virtualizer keeps its place. -/
theorem get_step_exited {γ : Type} (f : ν → γ)
    (hregistered : ∀ v h, f (p.undergo v (.registered h)) = f v)
    (hswitched : ∀ v on, f (p.undergo v (.switched on)) = f v)
    (vm : Vm σ) {s : Step σ} (kept : s ≠ .replace p.route) :
    f (p.get (VmM.step s vm).vm) = f (if vm.serves s = some p.route
      then p.undergo (p.get vm) (.exited vm.machine) else p.get vm) := by
  rw [p.get_step]
  by_cases h : s.takesExit = true
  · rw [Vm.incidents_of_takesExit h, List.foldl_append]
    have hexited : f (((if vm.serves s = some p.route
        then [.exited vm.machine] else []) : List (Incident η)).foldl p.undergo (p.get vm))
        = f (if vm.serves s = some p.route
          then p.undergo (p.get vm) (.exited vm.machine) else p.get vm) := by
      split <;> rfl
    rw [← hexited]
    -- after the exit recording may have ended, and no more
    cases vm.halts s with
    | true => exact hswitched _ _
    | false => rfl
  · have hnot : vm.serves s ≠ some p.route := fun hs => h (Vm.takesExit_of_serves hs)
    -- without an exit there is at most one incident, and it is no replacement
    rw [if_neg hnot]
    unfold Vm.incidents
    rw [if_neg h]
    split
    · split
      · exact hswitched _ _
      · rfl
    · next route =>
      have hne : route ≠ p.route := fun e => kept (e ▸ rfl)
      rw [if_neg hne]
      rfl
    · cases p.registers s with
      | none => rfl
      | some handler => exact hregistered _ _

end Station

/-! ## Runs -/

/-- **What holds at the start of a run and survives each of its steps holds wherever it gets.** -/
theorem Vm.after_induction {P : Vm σ → Prop} {vm : Vm σ} {steps before later : List (Step σ)}
    (e : steps = before ++ later) (start : P vm)
    (next : ∀ before s later, steps = before ++ s :: later → P (vm.after before) →
      P (VmM.step s (vm.after before)).vm) : P (vm.after before) := by
  subst e
  induction before generalizing vm with
  | nil => exact start
  | cons s rest ih =>
    rw [Vm.after_cons]
    refine ih (next [] s _ rfl start) fun before' s' later' e hP => ?_
    exact next (s :: before') s' later' (by rw [List.cons_append, e]; rfl) hP

/-- Every transition of a run is a step from where the steps before it led. -/
theorem Vm.mem_run {vm : Vm σ} {steps : List (Step σ)} {t : Transition σ Answer}
    (h : t ∈ vm.run steps) :
    ∃ before s later, steps = before ++ s :: later ∧ t = VmM.step s (vm.after before) := by
  induction steps generalizing vm with
  | nil => exact absurd h List.not_mem_nil
  | cons s rest ih =>
    rcases List.mem_cons.mp h with rfl | h'
    · exact ⟨[], s, rest, rfl, rfl⟩
    · obtain ⟨before, s', later, rfl, ht⟩ := ih h'
      exact ⟨s :: before, s', later, rfl, ht⟩

namespace Station

variable (p : Station σ ν η)

/-- What a run does to the virtualizer, in order. -/
def history (vm : Vm σ) : List (Step σ) → List (Incident η)
  | [] => []
  | s :: rest => p.incidents vm s ++ history (VmM.step s vm).vm rest

theorem history_append (vm : Vm σ) (a b : List (Step σ)) :
    p.history vm (a ++ b) = p.history vm a ++ p.history (vm.after a) b := by
  induction a generalizing vm with
  | nil => rfl
  | cons s rest ih =>
    rw [List.cons_append, history, history, ih, List.append_assoc, Vm.after_cons]

/-- **A run does to the virtualizer what its history says**, and nothing else. -/
theorem get_after (vm : Vm σ) (steps : List (Step σ)) :
    p.get (vm.after steps) = (p.history vm steps).foldl p.undergo (p.get vm) := by
  induction steps generalizing vm with
  | nil => rfl
  | cons s rest ih =>
    rw [Vm.after_cons, ih, p.get_step, history, List.foldl_append]
    rfl

theorem mem_history {vm : Vm σ} {steps : List (Step σ)} {i : Incident η}
    (h : i ∈ p.history vm steps) : ∃ vm', ∃ s ∈ steps, i ∈ p.incidents vm' s := by
  induction steps generalizing vm with
  | nil => exact absurd h List.not_mem_nil
  | cons s rest ih =>
    rcases List.mem_append.mp h with h' | h'
    · exact ⟨vm, s, List.mem_cons_self, h'⟩
    · obtain ⟨vm', s', hs', hi⟩ := ih h'
      exact ⟨vm', s', List.mem_cons_of_mem s hs', hi⟩

/-- The virtualizer keeps its place as long as no step puts a new one there. -/
theorem replaced_notMem_history {vm : Vm σ} {steps : List (Step σ)}
    (kept : .replace p.route ∉ steps) : .replaced ∉ p.history vm steps := by
  intro h
  obtain ⟨vm', s, hs, hi⟩ := p.mem_history h
  exact kept (Vm.replaced_mem_incidents hi ▸ hs)

/-- **What holds at the start of a run and survives everything that happens to the virtualizer in it
holds at its end.** -/
theorem get_after_induction {P : ν → Prop} {vm : Vm σ} {steps : List (Step σ)}
    (start : P (p.get vm)) (next : ∀ v, ∀ i ∈ p.history vm steps, P v → P (p.undergo v i)) :
    P (p.get (vm.after steps)) := by
  rw [get_after]
  exact List.foldlRecOn _ _ start fun v hv i hi => next v i hi hv

theorem switched_on_notMem_history {vm : Vm σ} {steps : List (Step σ)}
    (never : .setLogging p.route true ∉ steps) : .switched true ∉ p.history vm steps := by
  intro h
  obtain ⟨vm', s, hs, hi⟩ := p.mem_history h
  exact never (Vm.switched_on_mem_incidents hi ▸ hs)

/-- **What is off stays off** until it is switched on, if only switching can turn it on. -/
theorem off_after {P : ν → Prop} (hregistered : ∀ v h, P v → P (p.undergo v (.registered h)))
    (hswitched : ∀ v, P (p.undergo v (.switched false)))
    (hexited : ∀ v m, P v → P (p.undergo v (.exited m)))
    (hreplaced : ∀ v, P (p.undergo v .replaced)) {vm : Vm σ} {steps : List (Step σ)}
    (start : P (p.get vm)) (never : .setLogging p.route true ∉ steps) :
    P (p.get (vm.after steps)) := by
  refine p.get_after_induction start fun v i hi hv => ?_
  cases i with
  | registered handler => exact hregistered v handler hv
  | switched on =>
    cases on with
    | false => exact hswitched v
    | true => exact absurd hi (p.switched_on_notMem_history never)
  | exited m => exact hexited v m hv
  | replaced => exact hreplaced v

theorem registered_mem_history {vm : Vm σ} {steps : List (Step σ)} {handler : η}
    (h : .registered handler ∈ p.history vm steps) : ∃ s ∈ steps, p.registers s = some handler := by
  obtain ⟨vm', s, hs, hi⟩ := p.mem_history h
  exact ⟨s, hs, Vm.registered_mem_incidents hi⟩

end Station

/-- An exit that a virtualizer handled. -/
structure Taken (ν : Type) where
  /-- The virtualizer before the exit. -/
  virtualizer : ν
  /-- The machine on entry. -/
  machine : Machine
  /-- Whether recording was on. -/
  recording : Bool

/-- A virtualizer together with what it has lived through. -/
structure Life (ν : Type) where
  /-- The virtualizer as it is. -/
  virtualizer : ν
  /-- Whether the last switch was to on. A new virtualizer does not record. -/
  recording : Bool := false
  /-- The exits it handled, in order. -/
  past : List (Taken ν) := []

namespace Life

/-- Life goes on. -/
def next (undergo : ν → Incident η → ν) (l : Life ν) (i : Incident η) : Life ν :=
  let v := undergo l.virtualizer i
  match i with
  | .registered _ => { l with virtualizer := v }
  | .switched on => { l with virtualizer := v, recording := on }
  | .exited m =>
    { l with virtualizer := v, past := l.past ++ [⟨l.virtualizer, m, l.recording⟩] }
  | .replaced => { virtualizer := v }

theorem virtualizer_next (undergo : ν → Incident η → ν) (l : Life ν) (i : Incident η) :
    (l.next undergo i).virtualizer = undergo l.virtualizer i := by
  cases i <;> rfl

theorem virtualizer_foldl_next (undergo : ν → Incident η → ν) (l : Life ν)
    (is : List (Incident η)) :
    (is.foldl (next undergo) l).virtualizer = is.foldl undergo l.virtualizer := by
  induction is generalizing l with
  | nil => rfl
  | cons i rest ih => rw [List.foldl_cons, List.foldl_cons, ih, virtualizer_next]

/-- The past only grows, as long as the virtualizer keeps its place. -/
theorem past_foldl_next (undergo : ν → Incident η → ν) (l : Life ν) {is : List (Incident η)}
    (kept : .replaced ∉ is) : l.past <+: (is.foldl (next undergo) l).past := by
  induction is generalizing l with
  | nil => exact List.prefix_refl _
  | cons i rest ih =>
    have hnext : l.past <+: (l.next undergo i).past := by
      cases i with
      | exited m => exact List.prefix_append _ _
      | replaced => exact absurd List.mem_cons_self kept
      | registered | switched => exact List.prefix_refl _
    exact hnext.trans (ih _ fun h => kept (List.mem_cons_of_mem i h))

end Life

namespace Station

variable (p : Station σ ν η)

/-- The life of the virtualizer in place after a run of a new virtual CPU. -/
def life (m : Machine) (steps : List (Step σ)) : Life ν :=
  (p.history (Vm.create m).1 steps).foldl (Life.next p.undergo) { virtualizer := p.get (Vm.create m).1 }

theorem life_append (m : Machine) (a b : List (Step σ)) :
    p.life m (a ++ b)
      = (p.history ((Vm.create m).1.after a) b).foldl (Life.next p.undergo) (p.life m a) := by
  unfold life
  rw [history_append, List.foldl_append]

theorem virtualizer_life (m : Machine) (steps : List (Step σ)) :
    (p.life m steps).virtualizer = p.get ((Vm.create m).1.after steps) := by
  rw [get_after]
  exact Life.virtualizer_foldl_next _ _ _

/-- **What holds at the start and survives every incident holds after every run.** -/
theorem life_induction {P : Life ν → Prop} (m : Machine) (steps : List (Step σ))
    (start : P { virtualizer := p.get (Vm.create m).1 })
    (next : ∀ l i, P l → P (l.next p.undergo i)) : P (p.life m steps) :=
  List.foldlRecOn _ _ start fun l hl i _ => next l i hl

/-- A run without a replacement adds to the past and takes nothing away. -/
theorem past_life_append (m : Machine) (a : List (Step σ)) {b : List (Step σ)}
    (kept : .replace p.route ∉ b) : (p.life m a).past <+: (p.life m (a ++ b)).past := by
  rw [life_append]
  exact Life.past_foldl_next _ _ (p.replaced_notMem_history kept)

end Station

end GuestExit
