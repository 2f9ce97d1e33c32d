import GuestExit.Proofs.Interrupt.Vector
import GuestExit.Proofs.Vm.Life
import GuestExit.Script.Handler
import Mathlib.Algebra.BigOperators.Group.List.Basic
import Mathlib.Algebra.GroupWithZero.Nat
import Mathlib.Data.List.Nodup

/-!
# The counts are the past

A virtualizer of interrupts does not remember its exits, only how many there were of
each vector. Here its counts are compared with all the exits it handled, which are
kept beside it in `Life`: each counter is the number of exits on its vector while
counting was on, and all of them together are the number of exits while counting was
on.

Which vector an exit is on is read off the machine as the guest left it. What the
handlers did to the field or to the descriptor afterwards, and whether any of them took the
interrupt on, does not come into it.

Counters are 64 bits wide and wrap around. `Accounted`, the invariant, holds for
counters of any width; only where a counter is read as a number has the number of
exits to fit.
-/

namespace GuestExit.Interrupt

/-- Whether an exit counts for a vector. -/
def countsFor {σ : Type} (w : UInt8) (x : Taken (Virtualizer σ)) : Bool :=
  x.recording && (initial x.machine).vector = w

/-! ## The table -/

namespace Counts

theorem mem_vectors (w : UInt8) : w ∈ vectors := by
  unfold vectors
  have hlt : w.toNat < 256 := w.toNat_lt
  exact List.mem_map.mpr ⟨w.toNat, List.mem_range.mpr hlt, UInt8.ofNat_toNat⟩

theorem pairwise_vectors : vectors.Pairwise (· < ·) := by
  unfold vectors
  refine List.pairwise_map.mpr (List.pairwise_lt_range.imp_of_mem fun {a b} ha hb h => ?_)
  have ha' : a < 256 := List.mem_range.mp ha
  have hb' : b < 256 := List.mem_range.mp hb
  rw [UInt8.lt_iff_toNat_lt, UInt8.toNat_ofNat_of_lt' ha', UInt8.toNat_ofNat_of_lt' hb']
  exact h

theorem nodup_vectors : vectors.Nodup :=
  pairwise_vectors.imp fun h => UInt8.ne_of_lt h

/-- Every vector has one counter. -/
theorem sum_vectors_single (w : UInt8) : (vectors.map fun u => if w = u then 1 else 0).sum = 1 := by
  have hcount : vectors.count w = 1 := List.count_eq_one_of_mem nodup_vectors (mem_vectors w)
  have hsum := List.sum_map_eq_nsmul_single (l := vectors) w (fun u => if w = u then 1 else 0)
    fun u hu _ => if_neg fun e => hu e.symm
  rw [hsum, hcount]
  simp

end Counts

/-- **No exit is counted twice, and none is left out**: the exits on each vector add up to all that
were handled while counting was on. -/
theorem sum_countsFor {σ : Type} (past : List (Taken (Virtualizer σ))) :
    (Counts.vectors.map fun w => past.countP (countsFor w)).sum = past.countP (·.recording) := by
  induction past with
  | nil => simp
  | cons x rest ih =>
    have hsplit : ∀ w, (x :: rest).countP (countsFor w)
        = rest.countP (countsFor w) + if countsFor w x = true then 1 else 0 := fun w =>
      List.countP_cons ..
    -- the exit itself is counted for its own vector, or for none
    have hown : (Counts.vectors.map fun w => if countsFor w x = true then 1 else 0).sum
        = if x.recording = true then 1 else 0 := by
      cases hr : x.recording with
      | false => simp [countsFor, hr]
      | true =>
        simp only [countsFor, hr, Bool.true_and, decide_eq_true_eq, if_true]
        exact Counts.sum_vectors_single _
    rw [funext hsplit, List.sum_map_add, ih, hown, List.countP_cons]

/-! ## The invariant -/

variable {σ : Type}

/-- A virtualizer whose counts agree with what it has lived through. -/
structure Accounted (l : Life (Virtualizer σ)) : Prop where
  /-- It counts if it was last told to. -/
  logging : l.virtualizer.logging = l.recording
  /-- Each counter is the number of exits on its vector while counting was on, modulo 2^64. -/
  counts : ∀ w, l.virtualizer.counts.get w = .ofNat (l.past.countP (countsFor w))

theorem accounted_new : Accounted { virtualizer := ({} : Virtualizer σ) } := by
  refine ⟨rfl, fun w => ?_⟩
  simp [Counts.get]

theorem accounted_exited {l : Life (Virtualizer σ)} (h : Accounted l) (m : Machine) :
    Accounted (l.next Virtualizer.undergo (.exited m)) := by
  have ha := l.virtualizer.handle_answers m
  refine ⟨ha.logging.trans h.logging, fun w => ?_⟩
  -- the vector counted is read off the same machine that goes into the past
  have hpast : (l.next Virtualizer.undergo (.exited m)).past
      = l.past ++ [⟨l.virtualizer, m, l.recording⟩] := rfl
  have hcounts : (l.next Virtualizer.undergo (.exited m)).virtualizer.counts
      = if l.recording then l.virtualizer.counts.bump (initial m).vector
        else l.virtualizer.counts := by
    rw [← h.logging]
    exact ha.counts
  rw [hpast, hcounts, List.countP_append, List.countP_singleton]
  cases hr : l.recording with
  | false => simp [countsFor, h.counts w]
  | true =>
    rw [if_pos rfl, Counts.get_bump, h.counts w]
    by_cases e : w = (initial m).vector
    · subst e
      simp [countsFor]
    · have e' : ¬ (initial m).vector = w := fun h => e h.symm
      simp [countsFor, e, e']

/-- **Whatever happens to a virtualizer, its counts agree with its past.** -/
theorem accounted_next {l : Life (Virtualizer σ)} (h : Accounted l)
    (i : Incident (Handler σ Descriptor)) : Accounted (l.next Virtualizer.undergo i) := by
  cases i with
  | registered handler => exact ⟨h.logging, h.counts⟩
  | switched on => exact ⟨rfl, h.counts⟩
  | exited m => exact accounted_exited h m
  | replaced => exact accounted_new

variable [Inhabited σ]

theorem accounted_life (m : Machine) (steps : List (Step σ)) :
    Accounted (interrupts.life m steps) :=
  interrupts.life_induction m steps accounted_new fun _ i h => accounted_next h i

/-- **What a step does to the counts**: if the virtualizer handles an exit and counts, one more on
the vector that was acknowledged, and nothing otherwise. -/
theorem counts_step (vm : Vm σ) {s : Step σ} (kept : s ≠ .replace .externalInterrupt) :
    (VmM.step s vm).vm.interrupt.counts
      = if vm.serves s = some .externalInterrupt ∧ vm.interrupt.logging = true
        then vm.interrupt.counts.bump (initial vm.machine).vector else vm.interrupt.counts := by
  have hexited : (vm.interrupt.undergo (.exited vm.machine)).counts = _ :=
    (vm.interrupt.handle_answers vm.machine).counts
  have hstep : (VmM.step s vm).vm.interrupt.counts = if vm.serves s = some .externalInterrupt
      then (vm.interrupt.undergo (.exited vm.machine)).counts else vm.interrupt.counts :=
    (interrupts.get_step_exited Virtualizer.counts (fun _ _ => rfl) (fun _ _ => rfl) vm kept).trans
      (apply_ite Virtualizer.counts ..)
  rw [hstep, hexited]
  by_cases hs : vm.serves s = some .externalInterrupt <;> simp [hs]

/--
**Every interrupt is counted, once.** After any run of a virtual CPU the counter of a
vector is the number of exits on it that the virtualizer in place handled while
counting was on, and the counters together are the number of all of those. Fatal or
not, an interrupt counts the same; and nothing but an interrupt counts, neither
switching nor registering nor an access to a control register.
-/
theorem counts_account_for_every_interrupt (m : Machine) (steps : List (Step σ))
    (few : (interrupts.life m steps).past.countP (·.recording) < UInt64.size) :
    let past := (interrupts.life m steps).past
    let now := (Vm.create m).1.after steps
    (∀ w, (now.interrupt.counts.get w).toNat = past.countP fun x =>
        x.recording && (x.machine.vmcs.read .exitInterruption).toUInt8 = w)
      ∧ (Counts.vectors.map fun w => (now.interrupt.counts.get w).toNat).sum
        = past.countP (·.recording)
      ∧ ∀ s, s ≠ .replace .externalInterrupt → (VmM.step s now).vm.interrupt.counts
        = if now.serves s = some .externalInterrupt ∧ now.interrupt.logging = true
          then now.interrupt.counts.bump (now.machine.vmcs.read .exitInterruption).toUInt8
          else now.interrupt.counts := by
  intro past now
  have hacc := accounted_life m steps
  have hnow : (interrupts.life m steps).virtualizer = now.interrupt :=
    interrupts.virtualizer_life m steps
  have hget : ∀ w, (now.interrupt.counts.get w).toNat = past.countP (countsFor w) := by
    intro w
    have hle : past.countP (countsFor w) ≤ past.countP (·.recording) :=
      List.countP_mono_left fun x _ hx => (Bool.and_eq_true_iff.mp hx).1
    have hlt : past.countP (countsFor w) < UInt64.size := Nat.lt_of_le_of_lt hle few
    rw [← hnow, hacc.counts w]
    exact UInt64.toNat_ofNat_of_lt hlt
  refine ⟨hget, ?_, fun s kept => counts_step now kept⟩
  rw [funext hget]
  exact sum_countsFor past

/-- A vector that no handler takes on is counted although the exit is fatal, and as it was
acknowledged although the handler changes it and the field. It is not counted while counting is
off. -/
theorem counts_account_for_every_interrupt_toggled :
    let m : Machine := { vmcs := (({} : Vmcs).write .exitReason 1).write .exitInterruption 0xC8 }
    let steps : List (Step Script.Tally) :=
      [.addInterruptHandler (Script.interruptHandler "meddles"
          [.vector 0x40, .machine (.write .exitInterruption 0x80000020)] (.always false)),
        .setLogging .externalInterrupt true, .resolve,
        .setLogging .externalInterrupt false, .resolve,
        .setLogging .externalInterrupt true, .handle .externalInterrupt]
    let now := (Vm.create m).1.after steps
    (interrupts.life m steps).past.countP (·.recording) < UInt64.size
      ∧ (now.interrupt.counts.get 0xC8).toNat = 1 ∧ (now.interrupt.counts.get 0x20).toNat = 1
      ∧ (Counts.vectors.map fun w => (now.interrupt.counts.get w).toNat).sum = 2 := by
  intro m steps now
  have few : (interrupts.life m steps).past.countP (·.recording) < UInt64.size := by decide
  obtain ⟨hget, hsum, -⟩ := counts_account_for_every_interrupt m steps few
  exact ⟨few, (hget 0xC8).trans (by decide), (hget 0x20).trans (by decide), hsum.trans (by decide)⟩

end GuestExit.Interrupt
