import GuestExit.Chain.Dispatch
import GuestExit.Interrupt.Counts
import GuestExit.Log.Notice
import GuestExit.Machine.Injection

/-!
# Virtualizing external interrupts

When external interrupts exit, the processor has acknowledged them already and
hands over the vector with the exit. Some handler has to take the interrupt on,
for nobody else will: an interrupt that every handler declines is lost if the guest
goes on, so that is an error.

The vector is the low byte of the interruption information. A word that describes
no event has one too; it is used all the same, after a warning.

Exiting and acknowledging are only ever switched together.
-/

namespace GuestExit.Interrupt

open ExitM

/-- What the handlers of an interrupt decide about. -/
structure Descriptor where
  vector : UInt8
  deriving DecidableEq, Repr

/-- The virtualizer of external interrupts. -/
structure Virtualizer (σ : Type) where
  handlers : Chain σ Descriptor := []
  counts : Counts := {}
  /-- Whether exits are counted. -/
  logging : Bool := false

/-- The exit reason this virtualizer serves. -/
def reason : Reason := .externalInterrupt

/-- What becomes of an exit. -/
structure Handled (σ : Type) where
  virtualizer : Virtualizer σ
  /-- Whether a handler took the interrupt on, or an error if none did. -/
  result : Except ExitError Bool
  /-- The handlers called, in order. -/
  calls : List (Call σ Descriptor)

/-- The vector of the interrupt that caused the exit. -/
def acknowledged : ExitM UInt8 := do
  let word ← read .exitInterruption
  match Interruption.ofWord? word.toUInt32 with
  | some event => return event.vector
  | none =>
    report (.interruptUndescribed word)
    return word.toUInt8

/-- Finding out the vector leaves the machine alone. -/
@[simp] theorem final_acknowledged (m : Machine) : acknowledged.final m = m := by
  unfold acknowledged
  simp only [ExitM.final_bind, ExitM.final_read, ExitM.value_read]
  split <;> simp

/-- Hands the vector back to the guest. Claims every interrupt. -/
def reinject (info : Descriptor) : ExitM (Descriptor × Bool) := do
  injectInterrupt info.vector
  return (info, true)

namespace Virtualizer

variable {σ : Type}

/-- Puts a handler in front of the others. -/
def register (v : Virtualizer σ) (handler : Handler σ Descriptor) : Virtualizer σ :=
  { v with handlers := v.handlers.register handler }

/-- Puts a handler in front of the others that hands every vector back to the guest. -/
def registerReinjection [Inhabited σ] (v : Virtualizer σ) : Virtualizer σ :=
  v.register (.stateless reinject)

/-- Switches the counting of exits on or off. The counts stay. -/
def setLogging (v : Virtualizer σ) (on : Bool) : Virtualizer σ :=
  { v with logging := on }

/-- The virtualizer after an exit with the given vector went down its chain. -/
def conclude (v : Virtualizer σ) (vector : UInt8) (d : Dispatch σ Descriptor) : Virtualizer σ :=
  { v with
    handlers := d.chain
    counts := if v.logging then v.counts.bump vector else v.counts }

/-- Handles an exit caused by an external interrupt. -/
def handle (v : Virtualizer σ) : ExitM (Handled σ) := do
  let vector ← acknowledged
  let d ← v.handlers.dispatch { vector }
  unless d.claimed do
    report (.vectorDeclined vector)
  return {
    virtualizer := v.conclude vector d
    result := if d.claimed then .ok true else .error (.unhandledVector vector)
    calls := d.calls }

/-- **An interrupt goes down the chain with the vector that was acknowledged**, and the error
carries that vector too, whatever the handlers made of the descriptor. -/
theorem handle_eq (v : Virtualizer σ) (m : Machine) :
    v.handle m =
      let vector := (acknowledged m).value
      let d := v.handlers.dispatch ⟨vector⟩ m
      ⟨{ virtualizer := v.conclude vector d.value
         result := if d.value.claimed then .ok true else .error (.unhandledVector vector)
         calls := d.value.calls },
        (acknowledged m).effects ++ (d.effects ++
          if d.value.claimed then [] else [.report (.vectorDeclined vector)])⟩ := by
  cases hc : (v.handlers.dispatch ⟨(acknowledged m).value⟩ m).value.claimed <;>
    simp [handle, ExitM.bind_apply, ExitM.pure_apply, hc]

/-- Puts the counts into the log. -/
def dump (v : Virtualizer σ) : List Notice :=
  Notice.dump (v.counts.writeTo {})

/-- What the log is told when the virtualizer is given up: the counts, if it was still counting. -/
def retire (v : Virtualizer σ) : List Notice :=
  if v.logging then v.dump else []

end Virtualizer

/-- Makes external interrupts exit, acknowledged. All other controls stay. -/
def trapInterrupts : ExitM Unit := do
  setBits .pinBasedControls Control.externalInterruptExiting
  setBits .exitControls Control.acknowledgeInterruptOnExit
  report .interruptsExit

/-- Leaves external interrupts to the guest again. All other controls stay. -/
def untrapInterrupts : ExitM Unit := do
  clearBits .pinBasedControls Control.externalInterruptExiting
  clearBits .exitControls Control.acknowledgeInterruptOnExit
  report .interruptsStay

end GuestExit.Interrupt
