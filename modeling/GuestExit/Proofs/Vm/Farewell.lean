import GuestExit.Proofs.Vm.Halt
import GuestExit.Proofs.Vm.ReadBack
import Mathlib.Algebra.Order.BigOperators.Group.List
import Mathlib.Algebra.Order.Group.Nat

/-!
# Every record is told in the end

A virtualizer that is given up puts its records into the log, if it is still recording. In a run it
may be given up many times, and each time a new one takes its place, which has seen nothing and does
not record until it is told to. So the exits of a run are divided among instances, and their records
are told in as many parts: one at each replacement, and the last when the run is over and the
virtual CPU itself is given up (`Vm.farewells`).

No record gets lost at these seams, and none is told twice, provided every instance records from
before its first exit until it is given up (`Vm.Attentive`). `Vm.tenures` divides the exits in the
same way as the records are divided, and a `Ledger` says for one kind of virtualizer what it
remembers of its exits and how it tells them. The two are then compared part by part.
-/

namespace GuestExit

open ControlRegister (ExitLog ExitRecord recordFor)
open Interrupt (Counts)

variable {σ : Type}

namespace Vm

/-- Whether a virtualizer records its exits. -/
def recording (vm : Vm σ) : Route → Bool
  | .controlRegister => vm.controlRegister.logging
  | .externalInterrupt => vm.interrupt.logging

/-- What the log is told when a virtualizer is given up. -/
def farewell (vm : Vm σ) : Route → List Notice
  | .controlRegister => vm.controlRegister.retire
  | .externalInterrupt => vm.interrupt.retire

theorem farewell_of_off {vm : Vm σ} {which : Route} (h : vm.recording which = false) :
    vm.farewell which = [] := by
  cases which with
  | controlRegister => exact if_neg (by simpa [recording] using h)
  | externalInterrupt => exact if_neg (by simpa [recording] using h)

/-- The exit that a virtualizer handles in a step, if it handles one, as the virtual CPU that it
finds. -/
def visited (vm : Vm σ) (which : Route) (s : Step σ) : List (Vm σ) :=
  if vm.serves s = some which then [vm] else []

variable [Inhabited σ]

theorem effects_replace (vm : Vm σ) (which : Route) : (VmM.step (.replace which) vm).effects
    = (({} : Routes).announce which.reason which ++ vm.farewell which).map .report := by
  cases which with
  | controlRegister => simp [VmM.step, VmM.replace, VmM.bind_apply, farewell, Routes.construct]
  | externalInterrupt => simp [VmM.step, VmM.replace, VmM.bind_apply, farewell, Routes.construct]

theorem recordLines_replace (vm : Vm σ) (which : Route) :
    recordLines (VmM.step (.replace which) vm).effects
      = recordLines ((vm.farewell which).map .report) := by
  have hannounce : recordLines ((({} : Routes).announce which.reason which).map .report) = [] := by
    cases which <;> rfl
  rw [effects_replace, List.map_append, recordLines_append, hannounce, List.nil_append]

/-- The exits that a virtualizer handles in a run, whichever instance of it does, in order. -/
def visits (vm : Vm σ) (which : Route) : List (Step σ) → List (Vm σ)
  | [] => []
  | s :: rest => vm.visited which s ++ (VmM.step s vm).vm.visits which rest

/-- The lines of records that reach the log as the instances of a virtualizer are given up, one
after the other: at each replacement, and when the virtual CPU is given up after the run. -/
def farewells (vm : Vm σ) (which : Route) : List (Step σ) → List (List String)
  | [] => [recordLines ((vm.farewell which).map .report)]
  | s :: rest =>
    let t := VmM.step s vm
    if s.replaces = some which then recordLines t.effects :: t.vm.farewells which rest
    else t.vm.farewells which rest

/-- Every instance of a virtualizer records whenever it handles an exit, and once it records it goes
on until it is replaced, or until the run is over. -/
def Attentive (vm : Vm σ) (which : Route) : List (Step σ) → Prop
  | [] => True
  | s :: rest =>
    let next := (VmM.step s vm).vm
    (vm.serves s = some which → vm.recording which = true)
      ∧ (vm.recording which = true → s.replaces = some which ∨ next.recording which = true)
      ∧ next.Attentive which rest

instance decidableAttentive (vm : Vm σ) (which : Route) :
    (steps : List (Step σ)) → Decidable (vm.Attentive which steps)
  | [] => inferInstanceAs (Decidable True)
  | s :: rest =>
    have := decidableAttentive (VmM.step s vm).vm which rest
    inferInstanceAs (Decidable ((_ → _) ∧ (_ → _ ∨ _) ∧ _))

/-- The exits of a run by the instance that handled them, if the first one has handled `past`
before. -/
def tenures (vm : Vm σ) (which : Route) (past : List (Vm σ)) : List (Step σ) → List (List (Vm σ))
  | [] => [past]
  | s :: rest =>
    let next := (VmM.step s vm).vm
    if s.replaces = some which then past :: next.tenures which [] rest
    else next.tenures which (past ++ vm.visited which s) rest

/-- All instances together have handled all exits. -/
theorem flatten_tenures (vm : Vm σ) (which : Route) (past : List (Vm σ)) (steps : List (Step σ)) :
    (vm.tenures which past steps).flatten = past ++ vm.visits which steps := by
  induction steps generalizing vm past with
  | nil => simp [tenures, visits]
  | cons s rest ih =>
    unfold tenures visits
    dsimp only
    split
    · next h =>
      -- no exit is handled while virtualizers change places
      obtain rfl := Step.eq_replace_of_replaces h
      have hnone : vm.visited which (.replace which) = [] := rfl
      rw [List.flatten_cons, ih, hnone]
    · rw [ih, List.append_assoc]

end Vm

/-! ## Ledgers -/

variable [Inhabited σ]

/-- How the virtualizers of one kind remember exits, and how they tell them in the end. -/
structure Ledger (σ : Type) [Inhabited σ] where
  which : Route
  /-- The virtualizer has handled `past`, and remembers it. -/
  Holds : (past : List (Vm σ)) → Vm σ → Prop
  /-- Lines that tell of `past`. -/
  Told : (past : List (Vm σ)) → List String → Prop
  /-- A new virtualizer remembers nothing. -/
  fresh : ∀ vm, Holds [] (VmM.step (.replace which) vm).vm
  /-- It remembers an exit if it records it, and forgets none. -/
  kept : ∀ {vm s past}, s.replaces ≠ some which →
    (vm.serves s = some which → vm.recording which = true) →
    Holds past vm → Holds (past ++ vm.visited which s) (VmM.step s vm).vm
  /-- It tells what it remembers. -/
  told : ∀ {vm past}, Holds past vm → vm.recording which = true →
    Told past (recordLines ((vm.farewell which).map .report))
  /-- Silence tells of nothing. -/
  untold : Told [] []

namespace Ledger

/-- **Each instance tells of its own exits**, of all of them and of no others. -/
theorem told_farewells (l : Ledger σ) {vm : Vm σ} {steps : List (Step σ)} {past : List (Vm σ)}
    (attentive : vm.Attentive l.which steps) (holds : l.Holds past vm)
    (idle : vm.recording l.which = false → past = []) :
    List.Forall₂ l.Told (vm.tenures l.which past steps) (vm.farewells l.which steps) := by
  induction steps generalizing vm past with
  | nil =>
    refine .cons ?_ .nil
    cases hr : vm.recording l.which with
    | true => exact l.told holds hr
    | false =>
      rw [idle hr, Vm.farewell_of_off hr]
      exact l.untold
  | cons s rest ih =>
    obtain ⟨hserved, hon, hrest⟩ := attentive
    unfold Vm.tenures Vm.farewells
    dsimp only
    split
    · next h =>
      obtain rfl := Step.eq_replace_of_replaces h
      rw [Vm.recordLines_replace]
      refine .cons ?_ (ih hrest (l.fresh vm) fun _ => rfl)
      cases hr : vm.recording l.which with
      | true => exact l.told holds hr
      | false =>
        rw [idle hr, Vm.farewell_of_off hr]
        exact l.untold
    · next h =>
      refine ih hrest (l.kept h hserved holds) fun hoff => ?_
      -- whoever does not record now did not record before, and so has handled nothing yet
      have hr : vm.recording l.which = false := by
        by_contra hr
        rcases hon (by simpa using hr) with hreplaced | hstill
        · exact h hreplaced
        · rw [hstill] at hoff
          contradiction
      have hunserved : ¬ vm.serves s = some l.which := fun hs => by
        rw [hserved hs] at hr
        contradiction
      rw [idle hr, Vm.visited, if_neg hunserved]
      rfl

end Ledger

/-! ## Accesses -/

/-- The record that an exit leaves in the list of a register: what the handlers made of the access
in the end, if it was one of that register that has a trap. -/
def Vm.recordOf (reg : ControlReg) (vm : Vm σ) : Option ExitRecord :=
  recordFor reg ⟨vm.controlRegister, vm.machine, true⟩

/-- The lists of records hold what the exits left. -/
def accessLedger : Ledger σ where
  which := .controlRegister
  Holds past vm := ∀ reg, (vm.controlRegister.log.get reg).toList = past.filterMap (Vm.recordOf reg)
  Told past lines := ∀ reg,
    ExitLog.readSection reg lines = (past.filterMap (Vm.recordOf reg)).map ExitRecord.words
  fresh vm reg := by cases reg <;> rfl
  kept {vm s past} hkept hserved holds reg := by
    have hne : s ≠ .replace .controlRegister := by
      rintro rfl
      exact hkept rfl
    rw [ControlRegister.log_step vm hne, Vm.visited]
    split
    · next hs =>
      have hon : vm.controlRegister.logging = true := hserved hs
      rw [ControlRegister.Virtualizer.toList_recorded, holds reg, List.filterMap_append, hon]
      rfl
    · rw [holds reg, List.append_nil]
  told {vm past} holds hon reg := by
    have hfarewell : vm.farewell .controlRegister = vm.controlRegister.dump := if_pos hon
    rw [hfarewell, ControlRegister.Virtualizer.dump_eq, recordLines_map_recorded,
      ExitLog.readSection_lines, holds reg]
  untold _ := rfl

/-! ## Interrupts -/

/-- Whether an exit is on a vector. -/
def Vm.acknowledges (w : UInt8) (vm : Vm σ) : Bool :=
  (vm.machine.vmcs.read .exitInterruption).toUInt8 = w

/-- The counters hold how many exits there were on each vector, modulo 2^64. -/
def interruptLedger : Ledger σ where
  which := .externalInterrupt
  Holds past vm := ∀ w, vm.interrupt.counts.get w = .ofNat (past.countP (Vm.acknowledges w))
  Told past lines := ∀ w,
    Counts.readCount w lines = past.countP (Vm.acknowledges w) % UInt64.size
  fresh vm w := by
    show ({} : Counts).get w = _
    simp [Counts.get]
  kept {vm s past} hkept hserved holds w := by
    have hne : s ≠ .replace .externalInterrupt := by
      rintro rfl
      exact hkept rfl
    rw [Interrupt.counts_step vm hne, Vm.visited]
    by_cases hs : vm.serves s = some .externalInterrupt
    · have hon : vm.interrupt.logging = true := hserved hs
      have hvector : (Interrupt.initial vm.machine).vector
          = (vm.machine.vmcs.read .exitInterruption).toUInt8 := rfl
      rw [if_pos ⟨hs, hon⟩, if_pos hs, Counts.get_bump, holds w, List.countP_append,
        List.countP_singleton, hvector]
      by_cases e : w = (vm.machine.vmcs.read .exitInterruption).toUInt8
      · subst e
        simp [Vm.acknowledges]
      · have e' : ¬ (vm.machine.vmcs.read .exitInterruption).toUInt8 = w := fun h => e h.symm
        simp [Vm.acknowledges, e, e']
    · rw [if_neg fun h => hs h.1, if_neg hs, holds w, List.append_nil]
  told {vm past} holds hon w := by
    have hfarewell : vm.farewell .externalInterrupt = vm.interrupt.dump := if_pos hon
    rw [hfarewell, Interrupt.Virtualizer.dump_eq, recordLines_map_recorded, Counts.readCount_lines,
      holds w, UInt64.toNat_ofNat']
  untold _ := rfl

/-! ## Runs -/

namespace Vm

/-- A virtualizer that has just been brought up has not handled anything, and remembers it. -/
theorem told_of_create (l : Ledger σ) (m : Machine) {steps : List (Step σ)}
    (attentive : (create m).1.Attentive l.which steps) (fresh : l.Holds [] (create m).1) :
    List.Forall₂ l.Told ((create m).1.tenures l.which [] steps)
      ((create m).1.farewells l.which steps) :=
  l.told_farewells attentive fresh fun _ => rfl

theorem readSection_farewells {m : Machine} {steps : List (Step σ)}
    (attentive : (create m).1.Attentive .controlRegister steps) (reg : ControlReg) :
    ((create m).1.farewells .controlRegister steps).flatMap (ExitLog.readSection reg)
      = (((create m).1.visits .controlRegister steps).filterMap (recordOf reg)).map
        ExitRecord.words := by
  have htold := told_of_create accessLedger m attentive fun reg => by cases reg <;> rfl
  have hparts : ((create m).1.tenures .controlRegister [] steps).map
        (fun past => (past.filterMap (recordOf reg)).map ExitRecord.words)
      = ((create m).1.farewells .controlRegister steps).map (ExitLog.readSection reg) := by
    rw [← List.forall₂_eq_eq_eq, List.forall₂_map_left_iff, List.forall₂_map_right_iff]
    exact htold.imp fun past lines h => (h reg).symm
  have hall := flatten_tenures (create (σ := σ) m).1 .controlRegister [] steps
  rw [List.nil_append] at hall
  rw [List.flatMap_def, ← hparts, ← hall, List.filterMap_flatten, List.map_flatten, List.map_map]
  rfl

theorem readCount_farewells {m : Machine} {steps : List (Step σ)}
    (attentive : (create m).1.Attentive .externalInterrupt steps) (w : UInt8) :
    ((create m).1.farewells .externalInterrupt steps).map (Counts.readCount w)
      = ((create m).1.tenures .externalInterrupt [] steps).map fun past =>
        past.countP (acknowledges w) % UInt64.size := by
  have htold := told_of_create interruptLedger m attentive fun w => by simp [create, Counts.get]
  rw [← List.forall₂_eq_eq_eq, List.forall₂_map_left_iff, List.forall₂_map_right_iff]
  exact htold.flip.imp fun lines past h => h w

/-- The counts of a vector add up to the exits on it, up to what counters of 64 bits can hold. -/
theorem sum_readCount_farewells {m : Machine} {steps : List (Step σ)}
    (attentive : (create m).1.Attentive .externalInterrupt steps) (w : UInt8) :
    let told := (((create m).1.farewells .externalInterrupt steps).map (Counts.readCount w)).sum
    let seen := ((create m).1.visits .externalInterrupt steps).countP (acknowledges w)
    told % UInt64.size = seen % UInt64.size ∧ (seen < UInt64.size → told = seen) := by
  intro told seen
  have htold : told = (((create m).1.tenures .externalInterrupt [] steps).map fun past =>
      past.countP (acknowledges w) % UInt64.size).sum := congrArg List.sum (readCount_farewells attentive w)
  have hseen : seen = (((create m).1.tenures .externalInterrupt [] steps).map fun past =>
      past.countP (acknowledges w)).sum := by
    have hall := flatten_tenures (create (σ := σ) m).1 .externalInterrupt [] steps
    rw [List.nil_append] at hall
    show List.countP _ _ = _
    rw [← hall, List.countP_flatten]
  refine ⟨?_, fun few => ?_⟩
  · have hmod := List.sum_nat_mod (((create (σ := σ) m).1.tenures .externalInterrupt [] steps).map
      fun past => past.countP (acknowledges w)) UInt64.size
    rw [List.map_map] at hmod
    rw [htold, hseen]
    exact hmod.symm
  -- no instance has seen more than all of them together
  · rw [htold, hseen]
    refine congrArg List.sum (List.map_congr_left fun past hpast => Nat.mod_eq_of_lt ?_)
    have hle : past.countP (acknowledges w) ≤ seen := by
      rw [hseen]
      exact List.single_le_sum (fun _ _ => Nat.zero_le _) _ (List.mem_map_of_mem hpast)
    omega

theorem mem_farewells {vm : Vm σ} {which : Route} {steps : List (Step σ)} {lines : List String}
    (h : lines ∈ vm.farewells which steps) :
    ∃ vm' : Vm σ, lines = recordLines ((vm'.farewell which).map .report) := by
  induction steps generalizing vm with
  | nil => exact ⟨vm, List.mem_singleton.mp h⟩
  | cons s rest ih =>
    unfold farewells at h
    dsimp only at h
    split at h
    · next hs =>
      obtain rfl := Step.eq_replace_of_replaces hs
      rcases List.mem_cons.mp h with rfl | h'
      · exact ⟨vm, recordLines_replace vm which⟩
      · exact ih h'
    · exact ih h

/-- No record is told outside the three sections. -/
theorem filter_isRecord_of_mem_farewells {vm : Vm σ} {steps : List (Step σ)} {lines : List String}
    (h : lines ∈ vm.farewells .controlRegister steps) : lines.filter ExitLog.isRecord
      = [.cr0, .cr3, .cr4].flatMap fun reg => ExitLog.readSection reg lines := by
  obtain ⟨vm', rfl⟩ := mem_farewells h
  cases hr : vm'.recording .controlRegister with
  | false =>
    rw [farewell_of_off hr]
    rfl
  | true =>
    have hfarewell : vm'.farewell .controlRegister = vm'.controlRegister.dump := if_pos hr
    rw [hfarewell, ControlRegister.Virtualizer.dump_eq, recordLines_map_recorded]
    exact vm'.controlRegister.log.filter_isRecord_lines

/--
**Every exit that was recorded is told, once.** Take any run of a virtual CPU, with as many
replacements as one likes. If every instance of the virtualizer of control register accesses records
from before its first exit until it is given up, the lines of records for a register that are told
as they are given up are one line for each exit of the run on that register that has a trap, in
order, and each line is that of the value and the shadow in the end. If every instance of the
virtualizer of interrupts does, the counts told for a vector add up to the exits on it. An
instance that does not record when it is given up tells nothing.
-/
theorem farewells_tell_every_exit (m : Machine) (steps : List (Step σ)) :
    let vm := (create m).1
    (vm.Attentive .controlRegister steps → ∀ reg,
        (vm.farewells .controlRegister steps).flatMap (ExitLog.readSection reg)
          = ((vm.visits .controlRegister steps).filterMap (recordOf reg)).map ExitRecord.words)
      ∧ (∀ lines ∈ vm.farewells .controlRegister steps, lines.filter ExitLog.isRecord
        = [.cr0, .cr3, .cr4].flatMap fun reg => ExitLog.readSection reg lines)
      ∧ (vm.Attentive .externalInterrupt steps → ∀ w,
        let told := ((vm.farewells .externalInterrupt steps).map (Counts.readCount w)).sum
        let seen := (vm.visits .externalInterrupt steps).countP (acknowledges w)
        told % UInt64.size = seen % UInt64.size ∧ (seen < UInt64.size → told = seen))
      ∧ (∀ (now : Vm σ) which, now.recording which = false → now.farewell which = []
        ∧ (VmM.step (.replace which) now).effects
          = (({} : Routes).announce which.reason which).map .report)
      ∧ (vm.after steps).retire = (vm.after steps).farewell .controlRegister
        ++ (vm.after steps).farewell .externalInterrupt := by
  intro vm
  refine ⟨readSection_farewells, fun lines h => filter_isRecord_of_mem_farewells h,
    sum_readCount_farewells, fun now which hoff => ?_, rfl⟩
  have hnothing := farewell_of_off hoff
  exact ⟨hnothing, by rw [effects_replace, hnothing, List.append_nil]⟩

/-- Two instances each. The first ones are replaced after an exit, a write of CR0 that nobody claims
and an interrupt that goes back to the guest; the second ones are given up with the virtual CPU,
after another write of CR0, which a handler changes, and another interrupt on the same vector. -/
theorem farewells_tell_every_exit_replaced :
    let m : Machine :=
      { vmcs := (({} : Vmcs).write .exitQualification 0x300).write .exitInterruption 0x80000020
        saved := ({} : Registers).write (.gpr 3) 0x11 }
    let vm : Vm Script.Tally := (create m).1
    let steps : List (Step Script.Tally) :=
      [.setLogging .controlRegister true, .setLogging .externalInterrupt true, .addReinjection,
        .handle .controlRegister, .handle .externalInterrupt,
        .replace .controlRegister, .replace .externalInterrupt,
        .addAccessHandler .writeCr0 (Script.accessHandler "raises" [.raise 0x100] (.always true)),
        .setLogging .controlRegister true, .setLogging .externalInterrupt true,
        .handle .controlRegister, .handle .externalInterrupt]
    (vm.Attentive .controlRegister steps ∧ vm.Attentive .externalInterrupt steps
        ∧ (vm.visits .externalInterrupt steps).countP (acknowledges 0x20) < UInt64.size
        ∧ vm.recording .controlRegister = false)
      ∧ (vm.farewells .controlRegister steps).flatMap (ExitLog.readSection .cr0)
        = ["    value=0x0000000000000011 shadow=0x0000000000000000",
          "    value=0x0000000000000111 shadow=0x0000000000000000"]
      ∧ ((vm.farewells .externalInterrupt steps).map (Counts.readCount 0x20)).sum = 2
      ∧ vm.farewell .controlRegister = [] := by
  intro m vm steps
  have haccesses : vm.Attentive .controlRegister steps := by decide
  have hinterrupts : vm.Attentive .externalInterrupt steps := by decide
  have hseen : (vm.visits .externalInterrupt steps).countP (acknowledges 0x20) = 2 := by decide
  have few : (vm.visits .externalInterrupt steps).countP (acknowledges 0x20) < UInt64.size := by
    rw [hseen]
    decide
  obtain ⟨hrecords, -, hcounts, hoff, -⟩ := farewells_tell_every_exit m steps
  refine ⟨⟨haccesses, hinterrupts, few, rfl⟩, (hrecords haccesses .cr0).trans (by decide +kernel),
    ((hcounts hinterrupts 0x20).2 few).trans hseen, (hoff vm .controlRegister rfl).1⟩

end Vm

end GuestExit
