import GuestExit.Proofs.Chain.Indifferent
import GuestExit.Proofs.Interrupt.Vector
import GuestExit.Script.Handler

/-!
# Two paths to the vector

The interruption information is decoded twice over: by a reader of its bit fields that can fail,
and, if it fails, by taking the low byte as it stands. What comes after is the same for both
(`Virtualizer.attend`), and it depends on the vector alone; so of the whole field only the low byte
matters, and a warning if the field does not describe an event. The warning depends on four more
bits (`Undescribed`): the valid bit and the three that hold the kind, one number of which is
reserved. The upper half of the field is not looked at, and shows only in the text of the warning.

Handlers can read the field as well, and nothing can be said about those that do. To all others two
exits with the same low byte are the same exit.
-/

namespace GuestExit

open ExitM

namespace Interrupt

variable {σ : Type}

/-- The vector in a word. -/
def vectorIn (word : UInt64) : UInt8 := .ofNat (word.toNat % 256)

/-- The word describes no event: its valid bit is clear, or its kind is the reserved one. -/
def Undescribed (word : UInt64) : Prop :=
  word.toNat.testBit 31 = false ∨ word.toNat / 256 % 8 = 1

instance (word : UInt64) : Decidable (Undescribed word) :=
  inferInstanceAs (Decidable (_ ∨ _))

theorem undescribed_iff {word : UInt64} :
    Undescribed word ↔ Interruption.ofWord? word.toUInt32 = none := by
  have hvalid : word.toUInt32.toNat.testBit 31 = word.toNat.testBit 31 := by
    rw [UInt64.toNat_toUInt32, Nat.testBit_mod_two_pow, decide_eq_true (by decide), Bool.true_and]
  have hkind : bitField word.toUInt32.toNat 8 3 = word.toNat / 256 % 8 := by
    rw [bitField, Nat.shiftRight_eq_div_pow, Nat.one_shiftLeft, UInt64.toNat_toUInt32]
    omega
  rw [Interruption.ofWord?_eq_none_iff, hvalid, hkind]
  rfl

/-- What is told about a word before any handler is asked. -/
def warning (word : UInt64) : List Notice :=
  if Undescribed word then [.interruptUndescribed word] else []

theorem level_warning (word : UInt64) : ∀ n ∈ warning word, n.level = .warn := by
  unfold warning
  split
  · exact List.forall_mem_singleton.mpr rfl
  · simp

theorem effects_acknowledged (m : Machine) :
    (acknowledged m).effects = (warning (m.vmcs.read .exitInterruption)).map .report := by
  unfold acknowledged warning
  rw [effects_bind, value_read]
  cases h : Interruption.ofWord? (m.vmcs.read .exitInterruption).toUInt32 with
  | none => rw [if_pos (undescribed_iff.mpr h)]; rfl
  | some e =>
    have hno : ¬ Undescribed (m.vmcs.read .exitInterruption) := fun hu => by
      rw [undescribed_iff.mp hu] at h
      exact absurd h (by simp)
    rw [if_neg hno]
    rfl

theorem value_acknowledged_eq (m : Machine) :
    (acknowledged m).value = vectorIn (m.vmcs.read .exitInterruption) := by
  rw [value_acknowledged]
  apply UInt8.toNat_inj.mp
  simp [vectorIn]

/-! ## Words with the same bits -/

section Words

variable {word word' : UInt64}

theorem vectorIn_congr (h : word'.toNat % UInt32.size = word.toNat % UInt32.size) :
    vectorIn word' = vectorIn word := by
  have hlow : word'.toNat % 256 = word.toNat % 256 := by
    unfold UInt32.size at h
    omega
  unfold vectorIn
  rw [hlow]

theorem undescribed_congr (h : word'.toNat % UInt32.size = word.toNat % UInt32.size) :
    Undescribed word' ↔ Undescribed word := by
  have hword : word'.toUInt32 = word.toUInt32 := by
    apply UInt32.toNat_inj.mp
    simpa using h
  rw [undescribed_iff, undescribed_iff, hword]

end Words

/-! ## Behind the vector -/

namespace Virtualizer

variable {v : Virtualizer σ} {m : Machine}

/-- Handles an interrupt whose vector has been found out. -/
def attend (v : Virtualizer σ) (vector : UInt8) : ExitM (Handled σ) := do
  let d ← v.handlers.dispatch { vector }
  unless d.claimed do
    report (.vectorDeclined vector)
  return {
    virtualizer := v.conclude vector d
    result := if d.claimed then .ok true else .error (.unhandledVector vector)
    calls := d.calls }

/-- **An interrupt is handled by its vector**, after a warning or none. -/
theorem handle_eq_attend (v : Virtualizer σ) (m : Machine) :
    v.handle m = ⟨(v.attend (vectorIn (m.vmcs.read .exitInterruption)) m).value,
      (warning (m.vmcs.read .exitInterruption)).map .report
        ++ (v.attend (vectorIn (m.vmcs.read .exitInterruption)) m).effects⟩ := by
  have hsplit : v.handle = acknowledged >>= v.attend := rfl
  rw [hsplit, bind_apply, final_acknowledged, value_acknowledged_eq, effects_acknowledged]

theorem attend_eq (v : Virtualizer σ) (vector : UInt8) (m : Machine) :
    v.attend vector m =
      let d := v.handlers.dispatch ⟨vector⟩ m
      ⟨{ virtualizer := v.conclude vector d.value
         result := if d.value.claimed then .ok true else .error (.unhandledVector vector)
         calls := d.value.calls },
        d.effects ++ if d.value.claimed then [] else [.report (.vectorDeclined vector)]⟩ := by
  by_cases hc : (v.handlers.dispatch ⟨vector⟩ m).value.claimed = true
  · simp [attend, bind_apply, hc]
  · simp [attend, bind_apply, hc]

/-- An interrupt was handled as one with the information in `word`. -/
structure HandledAs (v : Virtualizer σ) (word : UInt64) (m : Machine) (o : Outcome (Handled σ)) :
    Prop where
  /-- The first handler is handed the low byte. -/
  handed : v.handlers ≠ [] →
    ∃ c rest, o.value.calls = c :: rest ∧ c.machine = m ∧ c.info.vector.toNat = word.toNat % 256
  /-- If counting is on, the counter with this number goes up by one, and no other changes. -/
  counted : ∀ w, o.value.virtualizer.counts.get w = v.counts.get w
    + if v.logging = true ∧ w.toNat = word.toNat % 256 then 1 else 0
  /-- If all handlers decline, the error is about the low byte, whatever they made of the vector. -/
  declined : (∀ c ∈ o.value.calls, c.claims = false) →
    o.value.result = .error (.unhandledVector (.ofNat (word.toNat % 256)))
  claimed : (∃ c ∈ o.value.calls, c.claims = true) → o.value.result = .ok true
  /-- All of this comes from the low byte, -/
  value : o.value = (v.attend (vectorIn word) m).value
  /-- and so does all that is done, after one line if the word describes no event. -/
  effects : o.effects = (if Undescribed word
      then [.report (.interruptUndescribed (m.vmcs.read .exitInterruption))] else [])
    ++ (v.attend (vectorIn word) m).effects

theorem toNat_vectorIn (word : UInt64) : (vectorIn word).toNat = word.toNat % 256 := by
  simp [vectorIn]

/-- **Only the lower half of the field counts.** -/
theorem handle_as (v : Virtualizer σ) {m : Machine} {word : UInt64}
    (same : (m.vmcs.read .exitInterruption).toNat % UInt32.size = word.toNat % UInt32.size) :
    HandledAs v word m (v.handle m) := by
  have hanswers := v.handle_answers m
  have hattend := v.handle_eq_attend m
  have hvector : initial m = ⟨vectorIn word⟩ := by
    rw [← vectorIn_congr same, ← value_acknowledged_eq, value_acknowledged]
    rfl
  have ht := Chain.traversal v.handlers (initial m) m
  have hask : v.ask m = v.handlers.dispatch (initial m) m := rfl
  refine
    { handed := fun hne => ?_
      counted := fun w => ?_
      declined := fun h => ?_
      claimed := fun h => ?_
      value := ?_
      effects := ?_ }
  · rw [hanswers.calls, hask, hvector]
    obtain ⟨h, rest, hhandlers⟩ := List.exists_cons_of_ne_nil hne
    rw [hhandlers, Chain.dispatch_cons]
    dsimp only
    split
    · exact ⟨_, _, rfl, rfl, toNat_vectorIn word⟩
    · exact ⟨_, _, rfl, rfl, toNat_vectorIn word⟩
  · rw [hanswers.counts, hvector]
    have hw : w = vectorIn word ↔ w.toNat = word.toNat % 256 := by
      rw [← toNat_vectorIn, UInt8.toNat_inj]
    by_cases hlogging : v.logging = true
    · rw [if_pos hlogging, Counts.get_bump]
      by_cases hsame : w = vectorIn word
      · rw [if_pos hsame, if_pos ⟨hlogging, hw.mp hsame⟩]
      · rw [if_neg hsame, if_neg fun h => hsame (hw.mpr h.2), UInt64.add_zero]
    · rw [if_neg hlogging, if_neg fun h => hlogging h.1, UInt64.add_zero]
  · have hno : (v.ask m).value.claimed ≠ true := by
      rw [hanswers.calls] at h
      intro hc
      obtain ⟨c, hmem, hclaims⟩ := ht.claimed_iff.mp hc
      rw [h c hmem] at hclaims
      exact absurd hclaims (by simp)
    rw [hanswers.result, if_neg hno, hvector]
    rfl
  · rw [hanswers.calls] at h
    have hclaimed : (v.ask m).value.claimed = true := ht.claimed_iff.mpr h
    rw [hanswers.result, if_pos hclaimed]
  · rw [hattend, vectorIn_congr same]
  · rw [hattend, vectorIn_congr same]
    dsimp only
    unfold warning
    by_cases hu : Undescribed word
    · rw [if_pos hu, if_pos ((undescribed_congr same).mpr hu)]
      rfl
    · rw [if_neg hu, if_neg fun h => hu ((undescribed_congr same).mp h)]
      rfl

/-- Two interrupts were handled alike, but for the warnings about `word` and `word'`. -/
structure HandledAlike (word word' : UInt64) (o o' : Outcome (Handled σ)) : Prop where
  result : o.value.result = o'.value.result
  /-- The handlers and their states are the same afterwards, and so are the counts. -/
  virtualizer : o.value.virtualizer = o'.value.virtualizer
  /-- The same handlers are called and do the same. -/
  calls : List.Forall₂ (Call.Like (Machine.DifferAt .exitInterruption)) o.value.calls o'.value.calls
  /-- All else that is done or told is the same, in the same order. -/
  effects : ∃ rest, o.effects = (warning word).map .report ++ rest
    ∧ o'.effects = (warning word').map .report ++ rest
  warnings : ∀ n ∈ warning word ++ warning word', n.level = .warn

/-- **The path makes no difference to handlers that do not read the field.** -/
theorem handle_alike {m' : Machine} (differ : m.DifferAt .exitInterruption m')
    (same : (m.vmcs.read .exitInterruption).toNat % 256
      = (m'.vmcs.read .exitInterruption).toNat % 256)
    (indifferent : ∀ h ∈ v.handlers, h.Indifferent (Machine.DifferAt .exitInterruption)) :
    HandledAlike (m.vmcs.read .exitInterruption) (m'.vmcs.read .exitInterruption)
      (v.handle m) (v.handle m') := by
  have hvector : vectorIn (m.vmcs.read .exitInterruption)
      = vectorIn (m'.vmcs.read .exitInterruption) := congrArg UInt8.ofNat same
  rw [handle_eq_attend, handle_eq_attend, hvector]
  generalize vectorIn (m'.vmcs.read .exitInterruption) = vector
  obtain ⟨hchain, -, hclaimed, heffects, hcalls⟩ := Chain.dispatch_indifferent
    Machine.DifferAt.perform indifferent ⟨vector⟩ differ
  rw [attend_eq, attend_eq]
  dsimp only
  refine ⟨by rw [hclaimed], ?_, hcalls, ⟨_, rfl, by rw [hclaimed, heffects]⟩, ?_⟩
  · unfold conclude
    rw [hchain]
  · exact List.forall_mem_append.mpr ⟨level_warning _, level_warning _⟩

end Virtualizer

open Virtualizer

/--
**The two paths to the vector agree.** Whatever the field holds and the handlers do, an interrupt is
handled by the low byte of the field: the first handler is handed it, it is the one that is counted,
and the error is about it. The path shows in one line in the log and nowhere else. None of this
depends on the upper half of the field; and if the handlers do not read the field, two exits with
the same low byte come to the same but for that line.
-/
theorem vector_paths_agree (v : Virtualizer σ) (m : Machine) :
    (∀ word : UInt64,
        (m.vmcs.read .exitInterruption).toNat % UInt32.size = word.toNat % UInt32.size →
        HandledAs v word m (v.handle m))
      ∧ ∀ m' : Machine, m.DifferAt .exitInterruption m' →
        (m.vmcs.read .exitInterruption).toNat % 256
          = (m'.vmcs.read .exitInterruption).toNat % 256 →
        (∀ h ∈ v.handlers, h.Indifferent (Machine.DifferAt .exitInterruption)) →
        HandledAlike (m.vmcs.read .exitInterruption) (m'.vmcs.read .exitInterruption)
          (v.handle m) (v.handle m') :=
  ⟨fun _ same => v.handle_as same, fun _ differ same indifferent =>
    handle_alike differ same indifferent⟩

/-- An interrupt with vector 200, described once and once not, before a handler that makes another
vector of it and declines: the error is about 200, and 200 is counted. -/
theorem vector_paths_agree_renamed :
    let described : UInt64 := 0x800000c8
    let undescribed : UInt64 := 0xffffffff000001c8
    let m : Machine := { vmcs := ({} : Vmcs).write .exitInterruption described }
    let m' : Machine := { m with vmcs := m.vmcs.write .exitInterruption undescribed }
    let renames := Script.interruptHandler "renames" [.vector 7] (.always false)
    let v : Virtualizer Script.Tally :=
      (({} : Virtualizer Script.Tally).register renames).setLogging true
    HandledAs v 0xffffffff800000c8 m (v.handle m)
      ∧ m.DifferAt .exitInterruption m'
      ∧ (∀ h ∈ v.handlers, h.Indifferent (Machine.DifferAt .exitInterruption))
      ∧ HandledAlike described undescribed (v.handle m) (v.handle m')
      ∧ (v.handle m').value.result = .error (.unhandledVector 200)
      ∧ (v.handle m').value.virtualizer.counts.get 200 = 1 := by
  intro described undescribed m m' renames v
  have hword : m.vmcs.read .exitInterruption = described := Vmcs.read_write_self ..
  have hword' : m'.vmcs.read .exitInterruption = undescribed := Vmcs.read_write_self ..
  have differ : m.DifferAt .exitInterruption m' := Machine.differAt_write ..
  have indifferent : ∀ h ∈ v.handlers,
      h.Indifferent (Machine.DifferAt .exitInterruption) := by
    intro h hh
    obtain rfl := List.mem_singleton.mp hh
    exact fun _ _ _ _ _ => rfl
  obtain ⟨has, halike⟩ := vector_paths_agree v m
  have same := has 0xffffffff800000c8 (by rw [hword]; decide)
  have alike := halike m' differ (by rw [hword, hword']; decide) indifferent
  have hrenamed := (vector_paths_agree v m').1 undescribed (by rw [hword'])
  rw [hword, hword'] at alike
  refine ⟨same, differ, indifferent, alike, (hrenamed.declined (by decide)).trans ?_, ?_⟩
  · exact congrArg (fun vector => Except.error (ExitError.unhandledVector vector)) (by decide)
  · rw [hrenamed.counted]
    decide

end Interrupt

end GuestExit
