import GuestExit.ControlRegister.Trap
import GuestExit.Machine.Injection

/-!
# Policies for CR4

Two ways of deciding about a write of CR4 that belong together. One keeps VMX
operation enabled and hides that from the guest. The other refuses values with
reserved bits, as the processor would, and passes all others on; it has to be
asked first.
-/

namespace GuestExit.ControlRegister

open ExitM

/-- Keeps CR4.VMXE set while the guest reads it as clear. Claims every write. -/
def hideVmxe (info : Descriptor) : ExitM (Descriptor × Bool) :=
  return ({ info with
    value := info.value ||| Cr4.vmxe
    shadow := info.value &&& ~~~Cr4.vmxe }, true)

/-- Raises a protection fault in the guest if the value has reserved bits: the write is dropped and
the instruction pointer stays. Declines all other values. -/
def rejectReserved (info : Descriptor) : ExitM (Descriptor × Bool) := do
  let reserved := info.value &&& ~~~Cr4.defined
  if reserved = 0 then
    return (info, false)
  else
    report (.reservedBits reserved)
    injectFault 0
    return ({ info with ignoreWrite := true, ignoreAdvance := true }, true)

end GuestExit.ControlRegister
