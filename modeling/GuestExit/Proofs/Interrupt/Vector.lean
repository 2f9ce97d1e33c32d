import GuestExit.Interrupt.Virtualizer
import GuestExit.Proofs.Chain.Traversal
import GuestExit.Proofs.Exit.Interruption
import GuestExit.Proofs.Machine.Changes

/-!
# The vector of an interrupt

Two paths lead from the interruption information to the vector: a word that
describes an event is decoded, and of any other word the low byte is taken. They
cannot disagree, since the vector of an event *is* the low byte of its word
(`Interruption.vector_eq`), and all that tells them apart is a warning. So an
interrupt is put before the handlers on the low byte of the field, whatever the rest
of the field holds (`Virtualizer.ask`).
-/

namespace GuestExit

/-- The vector of an event is the low byte of the word that describes it. -/
theorem Interruption.vector_eq {word : UInt32} {e : Interruption}
    (h : Interruption.ofWord? word = some e) : e.vector = word.toUInt8 := by
  apply UInt8.toNat_inj.mp
  rw [← (Interruption.ofWord?_eq_some_iff.mp h).vector, bitField, UInt32.toNat_toUInt8]
  rfl

namespace Interrupt

open ExitM

/-- The descriptor an interrupt starts from, on the machine as the guest left it. -/
def initial (m : Machine) : Descriptor :=
  ⟨(m.vmcs.read .exitInterruption).toUInt8⟩

/-- **Both paths yield the low byte of the field.** -/
theorem value_acknowledged (m : Machine) :
    (acknowledged m).value = (m.vmcs.read .exitInterruption).toUInt8 := by
  unfold acknowledged
  rw [value_bind, value_read]
  cases h : Interruption.ofWord? (m.vmcs.read .exitInterruption).toUInt32 with
  | none => rfl
  | some e =>
    show e.vector = _
    rw [Interruption.vector_eq h]
    simp

theorem changes_acknowledged (m : Machine) : changes (acknowledged m).effects = [] := by
  unfold acknowledged
  rw [effects_bind, value_read]
  cases Interruption.ofWord? (m.vmcs.read .exitInterruption).toUInt32 <;> rfl

namespace Virtualizer

variable {σ : Type}

/-- What the handlers make of an interrupt. -/
def ask (v : Virtualizer σ) (m : Machine) : Outcome (Dispatch σ Descriptor) :=
  v.handlers.dispatch (initial m) m

/-- What it means that an interrupt was handled as it should. -/
structure Answered (v : Virtualizer σ) (m : Machine) (o : Outcome (Handled σ)) : Prop where
  /-- A claim is the answer. That nobody claims is an error, about the vector acknowledged. -/
  result : o.value.result = if (v.ask m).value.claimed then .ok true
    else .error (.unhandledVector (initial m).vector)
  /-- The handlers are asked once. -/
  calls : o.value.calls = (v.ask m).value.calls
  /-- What changes is what they change. -/
  changes : changes o.effects = changes (v.ask m).effects
  /-- They are left as the dispatch left them. -/
  handlers : o.value.virtualizer.handlers = (v.ask m).value.chain
  /-- Claimed or not, the vector acknowledged is counted if counting is on. -/
  counts : o.value.virtualizer.counts
    = if v.logging then v.counts.bump (initial m).vector else v.counts
  /-- Counting stays on or off. -/
  logging : o.value.virtualizer.logging = v.logging

/-- **An interrupt is answered**, whatever the field says and the handlers do. -/
theorem handle_answers (v : Virtualizer σ) (m : Machine) : Answered v m (v.handle m) := by
  have hv := handle_eq v m
  rw [value_acknowledged] at hv
  refine
    { result := by rw [hv]; rfl
      calls := by rw [hv]; rfl
      changes := ?_
      handlers := by rw [hv]; rfl
      counts := by rw [hv]; rfl
      logging := by rw [hv]; rfl }
  rw [hv]
  cases hc : (v.handlers.dispatch ⟨(m.vmcs.read .exitInterruption).toUInt8⟩ m).value.claimed <;>
    simp [hc, changes_acknowledged, ask, initial]

end Virtualizer

end Interrupt

end GuestExit
