import GuestExit.Exit.Interruption
import GuestExit.Machine.ExitM

/-!
# Event injection

An event is delivered to the guest by describing it in the field that the
processor reads on the next entry. An interrupt needs that field alone. A
protection fault carries an error code in a field of its own, which is written
first.
-/

namespace GuestExit

/-- The event of an external interrupt. -/
def Interruption.external (vector : UInt8) : Interruption :=
  { vector, kind := .externalInterrupt }

/-- The event of a protection fault: exception 13, with an error code. -/
def Interruption.protectionFault : Interruption :=
  { vector := 13, kind := .hardwareException, hasErrorCode := true }

namespace Interruption

/-- The word of an event without an error code, packed field by field. -/
def pack (vector : UInt32) (kind : InterruptionKind) : UInt32 :=
  let event := setBitField 0 0 8 vector
  let event := setBitField event 8 3 (.ofNat kind.code)
  setBitField event 31 1 1

/-- The word of an event that has an error code as well. -/
def packErrorCode (event : UInt32) : UInt32 :=
  setBitField event 11 1 1

/-- **Packing gives the word that is read back as the event.** -/
theorem pack_eq_word (vector : UInt8) (kind : InterruptionKind) :
    pack vector.toUInt32 kind = word { vector, kind } := by
  have hall : ∀ n : Fin 256,
      pack (UInt8.ofNat n).toUInt32 kind = word { vector := .ofNat n, kind } := by
    cases kind <;> decide +kernel
  simpa using hall ⟨vector.toNat, vector.toNat_lt⟩

theorem pack_external (vector : UInt8) :
    pack vector.toUInt32 .externalInterrupt = (external vector).word :=
  pack_eq_word vector .externalInterrupt

theorem packErrorCode_protectionFault :
    packErrorCode (pack 13 .hardwareException) = protectionFault.word := by
  decide

end Interruption

namespace ExitM

/-- Delivers an external interrupt to the guest on the next entry. -/
def injectInterrupt (vector : UInt8) : ExitM Unit := do
  let word := Interruption.pack vector.toUInt32 .externalInterrupt
  report (.injectedInterrupt vector word)
  write .entryInterruption word.toUInt64

/-- Raises a protection fault with the given error code in the guest on the next entry. -/
def injectFault (code : UInt32) : ExitM Unit := do
  let word := Interruption.packErrorCode (Interruption.pack 13 .hardwareException)
  report (.injectedFault word code)
  write .entryErrorCode code.toUInt64
  write .entryInterruption word.toUInt64

theorem effects_injectInterrupt (v : UInt8) (m : Machine) :
    (injectInterrupt v m).effects
      = [.report (.injectedInterrupt v (Interruption.external v).word),
        .write .entryInterruption (Interruption.external v).word.toUInt64] := by
  rw [← Interruption.pack_external]
  rfl

theorem effects_injectFault (c : UInt32) (m : Machine) :
    (injectFault c m).effects
      = [.report (.injectedFault Interruption.protectionFault.word c),
        .write .entryErrorCode c.toUInt64,
        .write .entryInterruption Interruption.protectionFault.word.toUInt64] := by
  rw [← Interruption.packErrorCode_protectionFault]
  rfl

end ExitM

end GuestExit
