import GuestExit.Proofs.Machine.Fields
import GuestExit.Proofs.Vm.Confinement
import GuestExit.Proofs.Vm.Written

/-!
# Exiting and acknowledging go together

When external interrupts exit, the processor is to acknowledge them, for the vector is wanted with
the exit. Two bits say so, and they stand in two fields: bit 0 of the pin-based controls and bit
15 of the exit controls. They are only ever switched together.

All that happens to either field in a run is that these bits are set or cleared, as long as
handlers keep their hands off. `read_step` says that a step which switches nothing leaves any
field alone that is not one of those the virtualizers write (`Field.worked`); so a
control field after a run is the field at its start with the switches of the run
done to it (`controls_after`). The last switch then decides both bits, and the
other bits never matter.
-/

namespace GuestExit

open ControlRegister (Trap)

variable {σ ι : Type} {f : Field}

/-- The fields that are written when exits are handled and events injected, or when accesses to
control registers are made to exit. Other fields are written by handlers, or from outside. -/
def Field.worked : List Field :=
  [.guestCr0, .guestCr3, .guestCr4, .cr0Shadow, .cr4Shadow, .cr0Mask, .cr4Mask, .primaryControls,
    .guestRip, .guestRsp, .entryInterruption, .entryErrorCode]

theorem Field.ne_of_worked {g : Field} (hf : f ∉ Field.worked) (hg : g ∈ Field.worked) : f ≠ g := by
  rintro rfl
  exact hf hg

/-! ## Handling an exit -/

namespace ControlRegister

open ExitM

theorem Trap.avoids_emulate (hf : f ∉ Field.worked) (t : Trap) (g : Gpr) (info : Descriptor) :
    (t.emulate g info).Avoids f := by
  have hne := fun g hg => Field.ne_of_worked (g := g) hf hg
  cases t with
  | writeCr0 =>
    exact (avoids_write (hne _ (by decide)) _).bind fun _ => avoids_write (hne _ (by decide)) _
  | readCr3 => exact avoids_writeGpr (hne _ (by decide)) g _
  | writeCr3 => exact avoids_write (hne _ (by decide)) _
  | writeCr4 =>
    exact (avoids_write (hne _ (by decide)) _).bind fun _ => avoids_write (hne _ (by decide)) _

theorem Trap.avoids_carryOut (hf : f ∉ Field.worked) (t : Trap) (g : Gpr) (info : Descriptor) :
    (t.carryOut g info).Avoids f := by
  have hadvance : (if info.ignoreAdvance then pure () else advanceRip : ExitM Unit).Avoids f := by
    split
    · exact avoids_pure _
    · exact avoids_advanceRip (Field.ne_of_worked hf (by decide))
  unfold carryOut
  dsimp only
  split
  · exact hadvance
  · exact (t.avoids_emulate hf g info).bind fun _ => hadvance

theorem Virtualizer.avoids_handle (hf : f ∉ Field.worked) {v : Virtualizer σ}
    (hv : ∀ t, ∀ h ∈ v.chains.get t, h.Avoids f) : v.handle.Avoids f := by
  have hserve : ∀ t g, (v.serve t g).Avoids f := by
    intro t g
    refine (avoids_of_effectless (Trap.effects_defaults t g)).bind fun info => ?_
    refine (Chain.avoids_dispatch (hv t) info).bind fun d => ?_
    dsimp only
    split
    · exact (t.avoids_carryOut hf g d.info).bind fun _ => avoids_pure _
    · exact (avoids_report _).bind fun _ => avoids_pure _
  refine (avoids_read _).bind fun word => ?_
  cases Qualification.decode word with
  | error e => exact avoids_pure _
  | ok q =>
    refine (avoids_report _).bind fun _ => ?_
    cases Trap.ofAccess? q.access with
    | none => exact (avoids_report _).bind fun _ => avoids_pure _
    | some t => exact hserve t q.gpr

/-- The two policies for CR4 write no field but those of the fault that one of them raises. -/
theorem avoids_policies [Inhabited σ] (hf : f ∉ Field.worked) :
    (Handler.stateless (σ := σ) hideVmxe).Avoids f
      ∧ (Handler.stateless (σ := σ) rejectReserved).Avoids f := by
  refine ⟨Handler.avoids_stateless fun info => avoids_pure _, Handler.avoids_stateless fun info => ?_⟩
  unfold rejectReserved
  dsimp only
  split
  · exact avoids_pure _
  · have hcode := Field.ne_of_worked hf (g := .entryErrorCode) (by decide)
    have hevent := Field.ne_of_worked hf (g := .entryInterruption) (by decide)
    exact (avoids_report _).bind fun _ =>
      (avoids_injectFault hcode hevent 0).bind fun _ => avoids_pure _

end ControlRegister

namespace Interrupt

open ExitM

theorem Virtualizer.avoids_handle {v : Virtualizer σ} (hv : ∀ h ∈ v.handlers, h.Avoids f) :
    v.handle.Avoids f := by
  have hvector : acknowledged.Avoids f := by
    refine (avoids_read _).bind fun word => ?_
    cases Interruption.ofWord? word.toUInt32 with
    | some event => exact avoids_pure _
    | none => exact (avoids_report _).bind fun _ => avoids_pure _
  refine hvector.bind fun vector => (Chain.avoids_dispatch hv _).bind fun d => ?_
  dsimp only
  split
  · exact avoids_pure _
  · exact (avoids_report _).bind fun _ => avoids_pure _

theorem avoids_reinject [Inhabited σ] (hf : f ∉ Field.worked) :
    (Handler.stateless (σ := σ) reinject).Avoids f := by
  have hne := Field.ne_of_worked hf (g := .entryInterruption) (by decide)
  exact Handler.avoids_stateless fun info =>
    (avoids_injectInterrupt hne info.vector).bind fun _ => avoids_pure _

end Interrupt

/-! ## A field that nobody writes -/

/-- No handler of the virtual CPU writes the field. -/
def Vm.Avoids (f : Field) (vm : Vm σ) : Prop :=
  ∀ c, ∀ h ∈ vm.chain c, h.Avoids f

/-- A step that does not write the field from outside, and registers no handler that does. -/
def Step.Avoids (f : Field) : Step σ → Prop
  | .assign fields _ => f ∉ fields.map Prod.fst
  | .setBits g _ | .clearBits g _ => f ≠ g
  | .addAccessHandler _ handler => handler.Avoids f
  | .addInterruptHandler handler => handler.Avoids f
  | _ => True

/-- How a step switches the exiting of interrupts, if it does. -/
def Step.switch? : Step σ → Option Bool
  | .trapInterrupts => some true
  | .untrapInterrupts => some false
  | _ => none

/-- What handlers write depends on how they react and not on their private states. -/
theorem Vm.Avoids.of_react {vm vm' : Vm σ} (h : vm.Avoids f)
    (hreact : ∀ c, (vm'.chain c).map (·.react) = (vm.chain c).map (·.react)) : vm'.Avoids f := by
  intro c
  exact Chain.forall_of_react (P := fun react => ∀ s info, (react s info).Avoids f) (hreact c) (h c)

theorem Vm.Avoids.service {vm : Vm σ} (h : vm.Avoids f) (s : Step σ) :
    (vm.service s).vm.Avoids f := by
  cases hs : vm.serves s with
  | none =>
    rw [Vm.service_of_unserved hs]
    exact h
  | some route =>
    rw [Vm.service_of_serves hs]
    exact h.of_react (VmM.handle_confined route vm).handlers

/-- What becomes of an exit does not show in the field. -/
theorem Vm.Avoids.read_service {vm : Vm σ} (hf : f ∉ Field.worked) (h : vm.Avoids f) (s : Step σ) :
    (vm.service s).vm.machine.vmcs.read f = vm.machine.vmcs.read f := by
  cases hs : vm.serves s with
  | none => rw [Vm.service_of_unserved hs]
  | some route =>
    rw [Vm.service_of_serves hs]
    cases route with
    | controlRegister =>
      have hv : ∀ t, ∀ h ∈ vm.controlRegister.chains.get t, h.Avoids f := fun t => h (.access t)
      exact (ControlRegister.Virtualizer.avoids_handle hf hv).read_final vm.machine
    | externalInterrupt =>
      exact (Interrupt.Virtualizer.avoids_handle (h .interrupt)).read_final vm.machine

variable [Inhabited σ]

/-- **Handlers that write the field do not come out of nothing.** -/
theorem Vm.Avoids.step {vm : Vm σ} (hf : f ∉ Field.worked) (h : vm.Avoids f) {s : Step σ}
    (hs : s.Avoids f) : (VmM.step s vm).vm.Avoids f := by
  cases s with
  | handle | handleExit | resolve | exit =>
    rw [VmM.vm_step_of_takesExit rfl]
    split
    · exact (h.service _).of_react fun c => by cases c <;> rfl
    · exact h.service _
  | addAccessHandler t handler =>
    intro c
    cases c with
    | interrupt => exact h .interrupt
    | access u =>
      show ∀ h' ∈ (vm.controlRegister.chains.set t _).get u, h'.Avoids f
      rw [ControlRegister.PerTrap.get_set]
      split
      · exact List.forall_mem_cons.mpr ⟨hs, h (.access t)⟩
      · exact h (.access u)
  | addInterruptHandler handler =>
    intro c
    cases c with
    | interrupt => exact List.forall_mem_cons.mpr ⟨hs, h .interrupt⟩
    | access u => exact h (.access u)
  | addReinjection =>
    intro c
    cases c with
    | interrupt =>
      exact List.forall_mem_cons.mpr ⟨Interrupt.avoids_reinject hf, h .interrupt⟩
    | access u => exact h (.access u)
  | replace which =>
    -- the new virtualizer has no handlers, and the other one stays
    intro c handler hmem
    cases which with
    | controlRegister =>
      cases c with
      | interrupt => exact h .interrupt handler hmem
      | access u => cases u <;> exact absurd hmem List.not_mem_nil
    | externalInterrupt =>
      cases c with
      | interrupt => exact absurd hmem List.not_mem_nil
      | access u => exact h (.access u) handler hmem
  | setLogging which | dump which =>
    refine h.of_react fun c => ?_
    cases which <;> cases c <;> rfl
  | _ => exact h

/-- **A step that switches nothing leaves a field alone** that neither the virtualizers nor the
handlers write, nor the step itself. -/
theorem read_step {vm : Vm σ} (hf : f ∉ Field.worked) (h : vm.Avoids f) {s : Step σ}
    (hs : s.Avoids f) (unswitched : s.switch? = none) :
    (VmM.step s vm).vm.machine.vmcs.read f = vm.machine.vmcs.read f := by
  by_cases hexit : s.takesExit = true
  · rw [VmM.vm_step_of_takesExit hexit]
    split
    · exact h.read_service hf s
    · exact h.read_service hf s
  -- what is left writes what it is told to, or fields that the virtualizers write as well
  · have hworked : ∀ fields : List Field, (∀ g ∈ fields, g ∈ Field.worked) → f ∉ fields :=
      fun _ hsub hmem => hf (hsub f hmem)
    have hwritten : f ∉ s.written := by
      cases s with
      | assign fields registers => exact hs
      | setBits g bits | clearBits g bits => exact fun hmem => hs (List.mem_singleton.mp hmem)
      | trapInterrupts | untrapInterrupts => exact absurd unswitched (by simp [Step.switch?])
      | trapCr0Writes | trapCr4Writes | trapCr3Reads | trapCr3Writes | writeGpr | advanceRip
      | injectInterrupt | injectFault => exact hworked _ (by simp [Step.written, Field.worked])
      | _ => exact List.not_mem_nil
    exact VmM.read_step_of_not_written (Bool.eq_false_iff.mpr hexit) hwritten vm

/-! ## The two controls -/

/-- Whether external interrupts exit. -/
def Machine.exiting (m : Machine) : Bool :=
  m.vmcs.read .pinBasedControls &&& 0x1 ≠ 0

/-- Whether the processor acknowledges an interrupt that exits. -/
def Machine.acknowledging (m : Machine) : Bool :=
  m.vmcs.read .exitControls &&& 0x8000 ≠ 0

namespace Interrupt

open ExitM

/-- The control fields that are switched, with the bit that is switched in each. -/
def controls : List (Field × UInt64) :=
  [(.pinBasedControls, Control.externalInterruptExiting),
    (.exitControls, Control.acknowledgeInterruptOnExit)]

theorem controls_unworked : ∀ p ∈ controls, p.1 ∉ Field.worked := by decide

/-- The value of a control field with some bits of it switched. -/
def switch (bits value : UInt64) (on : Bool) : UInt64 :=
  if on then value ||| bits else value &&& ~~~bits

theorem foldl_switch_others (bits value : UInt64) (ons : List Bool) :
    ons.foldl (switch bits) value &&& ~~~bits = value &&& ~~~bits := by
  induction ons generalizing value with
  | nil => rfl
  | cons on rest ih =>
    rw [List.foldl_cons, ih]
    cases on with
    | true => exact or_and_not value bits
    | false => exact and_not_and_not value bits

theorem foldl_switch_bits (bits value : UInt64) (ons : List Bool) :
    ons.foldl (switch bits) value &&& bits
      = ons.getLast?.elim (value &&& bits) fun on => if on then bits else 0 := by
  induction ons generalizing value with
  | nil => rfl
  | cons on rest ih =>
    rw [List.foldl_cons, ih, List.getLast?_cons]
    cases rest.getLast? with
    | some last => rfl
    -- this is the last switch
    | none =>
      cases on with
      | true => exact or_and_self value bits
      | false => exact and_not_and_self value bits

/-- Both fields are written from what they were, whatever is switched first. -/
theorem vmcs_switched (m : Machine) (on : Bool) :
    ((if on then trapInterrupts else untrapInterrupts).final m).vmcs
      = controls.foldl (fun s p => s.write p.1 (switch p.2 (m.vmcs.read p.1) on)) m.vmcs := by
  have hother : ∀ v, (m.vmcs.write .pinBasedControls v).read .exitControls
      = m.vmcs.read .exitControls := fun v => Vmcs.read_write_of_ne _ _ (by decide)
  cases on with
  | true => simp [trapInterrupts, setBits, ExitM.final, controls, switch, hother]
  | false => simp [untrapInterrupts, clearBits, ExitM.final, controls, switch, hother]

/-- **What a step does to the two controls**: it switches both, or neither. -/
theorem controls_step {vm : Vm σ} {s : Step σ} (handlers : ∀ p ∈ controls, vm.Avoids p.1)
    (polite : ∀ p ∈ controls, s.Avoids p.1) {p : Field × UInt64} (hp : p ∈ controls) :
    (VmM.step s vm).vm.machine.vmcs.read p.1
      = s.switch?.toList.foldl (switch p.2) (vm.machine.vmcs.read p.1) := by
  cases hs : s.switch? with
  | none => exact read_step (controls_unworked p hp) (handlers p hp) (polite p hp) hs
  | some on =>
    have hvmcs : (VmM.step s vm).vm.machine.vmcs
        = controls.foldl (fun s p => s.write p.1 (switch p.2 (vm.machine.vmcs.read p.1) on))
          vm.machine.vmcs := by
      cases s with
      | trapInterrupts =>
        obtain rfl : true = on := Option.some.inj hs
        exact vmcs_switched vm.machine true
      | untrapInterrupts =>
        obtain rfl : false = on := Option.some.inj hs
        exact vmcs_switched vm.machine false
      | _ => exact absurd hs (by simp [Step.switch?])
    rw [hvmcs]
    rcases List.mem_cons.mp hp with rfl | hp'
    · exact (Vmcs.read_write_of_ne _ _ (by decide)).trans (Vmcs.read_write_self ..)
    · obtain rfl := List.mem_singleton.mp hp'
      exact Vmcs.read_write_self ..

theorem controls_after {vm : Vm σ} {steps : List (Step σ)}
    (handlers : ∀ p ∈ controls, vm.Avoids p.1) (polite : ∀ s ∈ steps, ∀ p ∈ controls, s.Avoids p.1)
    {p : Field × UInt64} (hp : p ∈ controls) :
    (vm.after steps).machine.vmcs.read p.1
      = (steps.filterMap Step.switch?).foldl (switch p.2) (vm.machine.vmcs.read p.1) := by
  induction steps generalizing vm with
  | nil => rfl
  | cons s rest ih =>
    have hs := polite s List.mem_cons_self
    have hrest := fun s' hs' => polite s' (List.mem_cons_of_mem s hs')
    have hnext : ∀ p ∈ controls, (VmM.step s vm).vm.Avoids p.1 := fun p hp =>
      (handlers p hp).step (controls_unworked p hp) (hs p hp)
    have hswitch : (s :: rest).filterMap Step.switch?
        = s.switch?.toList ++ rest.filterMap Step.switch? := by
      rw [List.filterMap_cons]
      cases s.switch? <;> rfl
    rw [Vm.after_cons, ih hnext hrest, controls_step handlers hs hp, hswitch, List.foldl_append]

/-- A run with the switches `ons` leads from `m` to `m'`. -/
structure Switched (ons : List Bool) (m m' : Machine) : Prop where
  /-- The two bits are equal if they were so before, or if there was any switch. -/
  coupled : m.exiting = m.acknowledging ∨ ons ≠ [] → m'.exiting = m'.acknowledging
  /-- Both are as the last switch left them, -/
  last : ∀ on, ons.getLast? = some on → m'.exiting = on ∧ m'.acknowledging = on
  /-- or as they were if there was none. -/
  unswitched : ons = [] → m'.exiting = m.exiting ∧ m'.acknowledging = m.acknowledging
  /-- All other bits of the pin-based controls stay, -/
  pinBased : m'.vmcs.read .pinBasedControls &&& ~~~0x1
    = m.vmcs.read .pinBasedControls &&& ~~~0x1
  /-- and so do those of the exit controls. -/
  exit : m'.vmcs.read .exitControls &&& ~~~0x8000 = m.vmcs.read .exitControls &&& ~~~0x8000

/--
**Exiting and acknowledging are coupled** at every point of every run, from wherever it starts, if
no handler writes either field and nothing from outside does. The handlers that come with the
virtualizers do not.
-/
theorem interrupt_controls_coupled (vm : Vm σ) (steps : List (Step σ))
    (handlers : ∀ p ∈ controls, vm.Avoids p.1)
    (polite : ∀ s ∈ steps, ∀ p ∈ controls, s.Avoids p.1) :
    (∀ before later, steps = before ++ later →
        Switched (before.filterMap Step.switch?) vm.machine (vm.after before).machine)
      ∧ ∀ p ∈ controls, (Handler.stateless (σ := σ) ControlRegister.hideVmxe).Avoids p.1
        ∧ (Handler.stateless (σ := σ) ControlRegister.rejectReserved).Avoids p.1
        ∧ (Handler.stateless (σ := σ) reinject).Avoids p.1 := by
  constructor
  · intro before later e
    subst e
    have hpolite := fun s hs => polite s (List.mem_append_left later hs)
    have hafter := fun p hp => controls_after (p := p) handlers hpolite hp
    generalize before.filterMap Step.switch? = ons at hafter
    have hpin := hafter (.pinBasedControls, 0x1) List.mem_cons_self
    have hexit := hafter (.exitControls, 0x8000) (List.mem_cons_of_mem _ List.mem_cons_self)
    dsimp only at hpin hexit
    have hexiting : (vm.after before).machine.exiting
        = ons.getLast?.elim vm.machine.exiting id := by
      unfold Machine.exiting
      rw [hpin, foldl_switch_bits]
      rcases ons.getLast? with _ | (_ | _) <;> rfl
    have hacknowledging : (vm.after before).machine.acknowledging
        = ons.getLast?.elim vm.machine.acknowledging id := by
      unfold Machine.acknowledging
      rw [hexit, foldl_switch_bits]
      rcases ons.getLast? with _ | (_ | _) <;> rfl
    refine ⟨fun h => ?_, fun on hon => ?_, fun hnone => ?_, ?_, ?_⟩
    · rw [hexiting, hacknowledging]
      cases hlast : ons.getLast? with
      | some on => rfl
      | none =>
        have hnil := List.getLast?_eq_none_iff.mp hlast
        exact h.resolve_right fun hne => hne hnil
    · rw [hexiting, hacknowledging, hon]
      exact ⟨rfl, rfl⟩
    · rw [hexiting, hacknowledging, hnone]
      exact ⟨rfl, rfl⟩
    · rw [hpin]
      exact foldl_switch_others ..
    · rw [hexit]
      exact foldl_switch_others ..
  · intro p hp
    have hf := controls_unworked p hp
    obtain ⟨hhide, hreject⟩ := ControlRegister.avoids_policies (σ := σ) hf
    exact ⟨hhide, hreject, avoids_reinject hf⟩

/-- The virtual CPU comes up with the two bits apart. They are brought together by the first switch,
stay together when an interrupt and an access are handled, the latter by a handler that writes
another control field, and are both clear in the end, after a replacement and a fatal exit. -/
theorem interrupt_controls_coupled_apart :
    let m : Machine :=
      { vmcs := (({} : Vmcs).write .pinBasedControls 0x17).write .exitControls 0x36 }
    let vm : Vm Script.Tally := (Vm.create m).1
    let meddler := Script.accessHandler "meddles"
      [.machine (.clearBits .primaryControls 0x8000), .hideVmxe] (.always true)
    let first : List (Step Script.Tally) := [.addReinjection, .addAccessHandler .writeCr4 meddler,
      .trapInterrupts, .trapCr4Writes 0x2000 0, .setLogging .externalInterrupt true,
      .assign [(.exitReason, 1)] [], .exit,
      .assign [(.exitReason, 28), (.exitQualification, 0x4)] [], .resolve]
    let second : List (Step Script.Tally) := [.untrapInterrupts, .replace .externalInterrupt,
      .assign [(.exitReason, 1)] [], .exit, .dumpAll]
    (∀ p ∈ controls, vm.Avoids p.1)
      ∧ (∀ s ∈ first ++ second, ∀ p ∈ controls, s.Avoids p.1)
      ∧ m.exiting = true ∧ m.acknowledging = false
      ∧ (vm.after first).machine.exiting = true
      ∧ (vm.after first).machine.acknowledging = true
      ∧ (vm.after (first ++ second)).machine.exiting = false
      ∧ (vm.after (first ++ second)).machine.acknowledging = false
      ∧ (vm.after (first ++ second)).machine.vmcs.read .pinBasedControls &&& ~~~0x1 = 0x16
      ∧ (vm.after (first ++ second)).machine.vmcs.read .exitControls &&& ~~~0x8000 = 0x36 := by
  intro m vm meddler first second
  have handlers : ∀ p ∈ controls, vm.Avoids p.1 := by
    intro p _ c h hmem
    cases c with
    | interrupt => exact absurd hmem List.not_mem_nil
    | access t => cases t <;> exact absurd hmem List.not_mem_nil
  have hmeddler : ∀ p ∈ controls, meddler.Avoids p.1 := by
    intro p hp tally info m v hv
    obtain ⟨e, -⟩ := Effect.write.inj (List.mem_singleton.mp hv)
    exact controls_unworked p hp (e ▸ by decide)
  have hassign : ∀ fields : List (Field × UInt64),
      (∀ p ∈ controls, p.1 ∉ fields.map Prod.fst) →
      ∀ p ∈ controls, (Step.assign (σ := Script.Tally) fields []).Avoids p.1 := fun _ h => h
  have polite : ∀ s ∈ first ++ second, ∀ p ∈ controls, s.Avoids p.1 := by
    simp only [first, second, List.cons_append, List.nil_append, List.forall_mem_cons]
    exact ⟨fun _ _ => trivial, hmeddler, fun _ _ => trivial, fun _ _ => trivial, fun _ _ => trivial,
      hassign _ (by decide), fun _ _ => trivial, hassign _ (by decide), fun _ _ => trivial,
      fun _ _ => trivial, fun _ _ => trivial, hassign _ (by decide), fun _ _ => trivial,
      fun _ _ => trivial, by simp⟩
  obtain ⟨hcoupled, -⟩ := interrupt_controls_coupled vm (first ++ second) handlers polite
  have hfirst := hcoupled first second rfl
  have hall := hcoupled (first ++ second) [] (List.append_nil _).symm
  obtain ⟨hexiting, hacknowledging⟩ := hfirst.last true rfl
  obtain ⟨hexiting', hacknowledging'⟩ := hall.last false rfl
  exact ⟨handlers, polite, by decide, by decide, hexiting, hacknowledging, hexiting',
    hacknowledging', hall.pinBased.trans (by decide), hall.exit.trans (by decide)⟩

end Interrupt

end GuestExit
