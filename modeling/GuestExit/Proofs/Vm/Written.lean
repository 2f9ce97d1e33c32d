import GuestExit.Proofs.Machine.Fields
import GuestExit.Proofs.Vm.Life

/-!
# What a step writes

What a step does to the control structure is up to the handlers if it takes an exit. Any other step
writes the fields that it is there to write, and `Step.written` lists them for each. A field that is
not on the list keeps its value (`read_step_of_not_written`), so claims about a run need not go
through the kinds of steps again.
-/

namespace GuestExit

variable {σ : Type}

/-- The fields that a step may write without taking an exit. -/
def Step.written : Step σ → List Field
  | .assign fields _ => fields.map Prod.fst
  | .trapCr0Writes .. => [.cr0Mask, .cr0Shadow]
  | .trapCr4Writes .. => [.cr4Mask, .cr4Shadow]
  | .trapCr3Reads | .trapCr3Writes => [.primaryControls]
  | .trapInterrupts | .untrapInterrupts => [.pinBasedControls, .exitControls]
  | .setBits f _ | .clearBits f _ => [f]
  | .writeGpr .. => [.guestRsp]
  | .advanceRip => [.guestRip]
  | .injectInterrupt _ => [.entryInterruption]
  | .injectFault _ => [.entryErrorCode, .entryInterruption]
  | _ => []

namespace VmM

open ExitM

/-- **A step that takes no exit keeps the fields that it is not there to write.** -/
theorem read_step_of_not_written [Inhabited σ] {s : Step σ} (h : s.takesExit = false) {f : Field}
    (hf : f ∉ s.written) (vm : Vm σ) :
    (step s vm).vm.machine.vmcs.read f = vm.machine.vmcs.read f := by
  have hwork : ∀ x : ExitM Unit, x.Avoids f →
      ((work x : VmM σ Answer) vm).vm.machine.vmcs.read f = vm.machine.vmcs.read f :=
    fun x hx => hx.read_final vm.machine
  have hne : ∀ g ∈ s.written, f ≠ g := by
    rintro g hg rfl
    exact hf hg
  cases s with
  | handle | handleExit | resolve | exit => exact absurd h (by simp [Step.takesExit])
  | assign fields registers => exact Vmcs.read_foldl_write hf _
  | trapCr0Writes | trapCr4Writes =>
    exact hwork _ ((avoids_write (hne _ (by simp [Step.written])) _).bind fun _ =>
      (avoids_write (hne _ (by simp [Step.written])) _).bind fun _ => avoids_report _)
  | trapCr3Reads | trapCr3Writes =>
    exact hwork _ ((avoids_setBits (hne _ (by simp [Step.written])) _).bind fun _ =>
      avoids_report _)
  | trapInterrupts =>
    exact hwork _ ((avoids_setBits (hne _ (by simp [Step.written])) _).bind fun _ =>
      (avoids_setBits (hne _ (by simp [Step.written])) _).bind fun _ => avoids_report _)
  | untrapInterrupts =>
    exact hwork _ ((avoids_clearBits (hne _ (by simp [Step.written])) _).bind fun _ =>
      (avoids_clearBits (hne _ (by simp [Step.written])) _).bind fun _ => avoids_report _)
  | setBits g bits => exact hwork _ (avoids_setBits (hne g (by simp [Step.written])) bits)
  | clearBits g bits => exact hwork _ (avoids_clearBits (hne g (by simp [Step.written])) bits)
  | writeGpr g v => exact hwork _ (avoids_writeGpr (hne _ (by simp [Step.written])) g v)
  | advanceRip => exact hwork _ (avoids_advanceRip (hne _ (by simp [Step.written])))
  | injectInterrupt vector =>
    exact hwork _ (avoids_injectInterrupt (hne _ (by simp [Step.written])) vector)
  | injectFault code =>
    exact hwork _ (avoids_injectFault (hne _ (by simp [Step.written]))
      (hne _ (by simp [Step.written])) code)
  | setLogging which | dump which | replace which => cases which <;> rfl
  | addAccessHandler | addInterruptHandler | addReinjection | readGpr | dumpAll => rfl

end VmM

end GuestExit
