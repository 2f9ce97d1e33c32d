/-!
# VMCS fields

The fields of the virtual-machine control structure this library reads or
writes, by their architectural encodings, and the control bits it switches in
them.
-/

namespace GuestExit

/-- A VMCS field, named by its encoding. -/
structure Field where
  encoding : UInt32
  deriving DecidableEq, Repr

namespace Field

/-! ### Execution controls -/

/-- Pin-based execution controls. -/
def pinBasedControls : Field := ⟨0x4000⟩

/-- Primary processor-based execution controls. -/
def primaryControls : Field := ⟨0x4002⟩

/-- VM-exit controls. -/
def exitControls : Field := ⟨0x400c⟩

/-- The CR0 bits the hypervisor owns. -/
def cr0Mask : Field := ⟨0x6000⟩

/-- The CR4 bits the hypervisor owns. -/
def cr4Mask : Field := ⟨0x6002⟩

/-- What the guest reads for the CR0 bits it does not own. -/
def cr0Shadow : Field := ⟨0x6004⟩

/-- What the guest reads for the CR4 bits it does not own. -/
def cr4Shadow : Field := ⟨0x6006⟩

/-! ### VM-entry event injection -/

/-- The event delivered to the guest on the next entry. -/
def entryInterruption : Field := ⟨0x4016⟩

/-- The error code delivered with that event. -/
def entryErrorCode : Field := ⟨0x4018⟩

/-! ### Exit information -/

/-- Why the guest exited. -/
def exitReason : Field := ⟨0x4402⟩

/-- The event that caused the exit, if it was one. -/
def exitInterruption : Field := ⟨0x4404⟩

/-- The length in bytes of the instruction that exited. -/
def exitInstructionLength : Field := ⟨0x440c⟩

/-- Further details of the exit, read according to its reason. -/
def exitQualification : Field := ⟨0x6400⟩

/-! ### Guest state -/

/-- The CR0 the guest runs with. -/
def guestCr0 : Field := ⟨0x6800⟩

/-- The CR3 the guest runs with. -/
def guestCr3 : Field := ⟨0x6802⟩

/-- The CR4 the guest runs with. -/
def guestCr4 : Field := ⟨0x6804⟩

/-- The guest's stack pointer. -/
def guestRsp : Field := ⟨0x681c⟩

/-- The guest's instruction pointer. -/
def guestRip : Field := ⟨0x681e⟩

end Field

namespace Control

/-- In the pin-based controls: external interrupts exit. -/
def externalInterruptExiting : UInt64 := 0x1

/-- In the VM-exit controls: the processor acknowledges an interrupt that exits. -/
def acknowledgeInterruptOnExit : UInt64 := 0x8000

/-- In the primary controls: loads of CR3 exit. -/
def cr3LoadExiting : UInt64 := 0x8000

/-- In the primary controls: stores of CR3 exit. -/
def cr3StoreExiting : UInt64 := 0x10000

end Control

namespace Cr4

/-- Whether VMX operation is enabled: CR4.VMXE. -/
def vmxe : UInt64 := 0x2000

/-- All CR4 bits that have a meaning. The others are reserved. -/
def defined : UInt64 := 0x1ff7fff

end Cr4

end GuestExit
