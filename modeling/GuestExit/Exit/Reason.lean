/-!
# Exit reasons

Why a guest left for the hypervisor. The exit-reason field carries the basic
reason in its low sixteen bits and flags above them; the architecture numbers the
reasons from 0 to 64 and leaves 35, 38 and 42 without a meaning.

`all` lists the reasons by ascending code, which is the order listings of routes
follow.
-/

namespace GuestExit

/-- A basic exit reason. -/
inductive Reason where
  | exceptionOrNmi | externalInterrupt | tripleFault | initSignal | startupIpi
  | ioSystemManagementInterrupt | otherSmi | interruptWindow | nmiWindow | taskSwitch | cpuid
  | getsec | hlt | invd | invlpg | rdpmc | rdtsc | rsm | vmcall | vmclear | vmlaunch | vmptrld
  | vmptrst | vmread | vmresume | vmwrite | vmxoff | vmxon | controlRegisterAccesses | movDr
  | ioInstruction | rdmsr | wrmsr | vmEntryFailureInvalidGuestState | vmEntryFailureMsrLoading
  | mwait | monitorTrapFlag | monitor | pause | vmEntryFailureMachineCheckEvent
  | tprBelowThreshold | apicAccess | virtualizedEoi | accessToGdtrOrIdtr | accessToLdtrOrTr
  | eptViolation | eptMisconfiguration | invept | rdtscp | vmxPreemptionTimerExpired | invvpid
  | wbinvdOrWbnoinvd | xsetbv | apicWrite | rdrand | invpcid | vmfunc | encls | rdseed
  | pageModificationLogFull | xsaves | xrstors
  deriving DecidableEq, Repr

namespace Reason

/-- The architectural number of a reason. -/
def code : Reason → UInt16
  | exceptionOrNmi => 0
  | externalInterrupt => 1
  | tripleFault => 2
  | initSignal => 3
  | startupIpi => 4
  | ioSystemManagementInterrupt => 5
  | otherSmi => 6
  | interruptWindow => 7
  | nmiWindow => 8
  | taskSwitch => 9
  | cpuid => 10
  | getsec => 11
  | hlt => 12
  | invd => 13
  | invlpg => 14
  | rdpmc => 15
  | rdtsc => 16
  | rsm => 17
  | vmcall => 18
  | vmclear => 19
  | vmlaunch => 20
  | vmptrld => 21
  | vmptrst => 22
  | vmread => 23
  | vmresume => 24
  | vmwrite => 25
  | vmxoff => 26
  | vmxon => 27
  | controlRegisterAccesses => 28
  | movDr => 29
  | ioInstruction => 30
  | rdmsr => 31
  | wrmsr => 32
  | vmEntryFailureInvalidGuestState => 33
  | vmEntryFailureMsrLoading => 34
  | mwait => 36
  | monitorTrapFlag => 37
  | monitor => 39
  | pause => 40
  | vmEntryFailureMachineCheckEvent => 41
  | tprBelowThreshold => 43
  | apicAccess => 44
  | virtualizedEoi => 45
  | accessToGdtrOrIdtr => 46
  | accessToLdtrOrTr => 47
  | eptViolation => 48
  | eptMisconfiguration => 49
  | invept => 50
  | rdtscp => 51
  | vmxPreemptionTimerExpired => 52
  | invvpid => 53
  | wbinvdOrWbnoinvd => 54
  | xsetbv => 55
  | apicWrite => 56
  | rdrand => 57
  | invpcid => 58
  | vmfunc => 59
  | encls => 60
  | rdseed => 61
  | pageModificationLogFull => 62
  | xsaves => 63
  | xrstors => 64

/-- The name of a reason in messages. -/
def name : Reason → String
  | exceptionOrNmi => "ExceptionOrNmi"
  | externalInterrupt => "ExternalInterrupt"
  | tripleFault => "TripleFault"
  | initSignal => "InitSignal"
  | startupIpi => "StartupIpi"
  | ioSystemManagementInterrupt => "IoSystemManagementInterrupt"
  | otherSmi => "OtherSmi"
  | interruptWindow => "InterruptWindow"
  | nmiWindow => "NmiWindow"
  | taskSwitch => "TaskSwitch"
  | cpuid => "Cpuid"
  | getsec => "Getsec"
  | hlt => "Hlt"
  | invd => "Invd"
  | invlpg => "Invlpg"
  | rdpmc => "Rdpmc"
  | rdtsc => "Rdtsc"
  | rsm => "Rsm"
  | vmcall => "Vmcall"
  | vmclear => "Vmclear"
  | vmlaunch => "Vmlaunch"
  | vmptrld => "Vmptrld"
  | vmptrst => "Vmptrst"
  | vmread => "Vmread"
  | vmresume => "Vmresume"
  | vmwrite => "Vmwrite"
  | vmxoff => "Vmxoff"
  | vmxon => "Vmxon"
  | controlRegisterAccesses => "ControlRegisterAccesses"
  | movDr => "MovDr"
  | ioInstruction => "IoInstruction"
  | rdmsr => "Rdmsr"
  | wrmsr => "Wrmsr"
  | vmEntryFailureInvalidGuestState => "VmEntryFailureInvalidGuestState"
  | vmEntryFailureMsrLoading => "VmEntryFailureMsrLoading"
  | mwait => "Mwait"
  | monitorTrapFlag => "MonitorTrapFlag"
  | monitor => "Monitor"
  | pause => "Pause"
  | vmEntryFailureMachineCheckEvent => "VmEntryFailureMachineCheckEvent"
  | tprBelowThreshold => "TprBelowThreshold"
  | apicAccess => "ApicAccess"
  | virtualizedEoi => "VirtualizedEoi"
  | accessToGdtrOrIdtr => "AccessToGdtrOrIdtr"
  | accessToLdtrOrTr => "AccessToLdtrOrTr"
  | eptViolation => "EptViolation"
  | eptMisconfiguration => "EptMisconfiguration"
  | invept => "Invept"
  | rdtscp => "Rdtscp"
  | vmxPreemptionTimerExpired => "VmxPreemptionTimerExpired"
  | invvpid => "Invvpid"
  | wbinvdOrWbnoinvd => "WbinvdOrWbnoinvd"
  | xsetbv => "Xsetbv"
  | apicWrite => "ApicWrite"
  | rdrand => "Rdrand"
  | invpcid => "Invpcid"
  | vmfunc => "Vmfunc"
  | encls => "Encls"
  | rdseed => "Rdseed"
  | pageModificationLogFull => "PageModificationLogFull"
  | xsaves => "Xsaves"
  | xrstors => "Xrstors"

/-- All reasons, by ascending code. -/
def all : List Reason :=
  [exceptionOrNmi, externalInterrupt, tripleFault, initSignal, startupIpi,
    ioSystemManagementInterrupt, otherSmi, interruptWindow, nmiWindow, taskSwitch, cpuid,
    getsec, hlt, invd, invlpg, rdpmc, rdtsc, rsm, vmcall, vmclear, vmlaunch, vmptrld, vmptrst,
    vmread, vmresume, vmwrite, vmxoff, vmxon, controlRegisterAccesses, movDr, ioInstruction,
    rdmsr, wrmsr, vmEntryFailureInvalidGuestState, vmEntryFailureMsrLoading, mwait,
    monitorTrapFlag, monitor, pause, vmEntryFailureMachineCheckEvent, tprBelowThreshold,
    apicAccess, virtualizedEoi, accessToGdtrOrIdtr, accessToLdtrOrTr, eptViolation,
    eptMisconfiguration, invept, rdtscp, vmxPreemptionTimerExpired, invvpid, wbinvdOrWbnoinvd,
    xsetbv, apicWrite, rdrand, invpcid, vmfunc, encls, rdseed, pageModificationLogFull, xsaves,
    xrstors]

/-- The reason with the given number, if there is one. -/
def ofCode? : Nat → Option Reason
  | 0 => some exceptionOrNmi
  | 1 => some externalInterrupt
  | 2 => some tripleFault
  | 3 => some initSignal
  | 4 => some startupIpi
  | 5 => some ioSystemManagementInterrupt
  | 6 => some otherSmi
  | 7 => some interruptWindow
  | 8 => some nmiWindow
  | 9 => some taskSwitch
  | 10 => some cpuid
  | 11 => some getsec
  | 12 => some hlt
  | 13 => some invd
  | 14 => some invlpg
  | 15 => some rdpmc
  | 16 => some rdtsc
  | 17 => some rsm
  | 18 => some vmcall
  | 19 => some vmclear
  | 20 => some vmlaunch
  | 21 => some vmptrld
  | 22 => some vmptrst
  | 23 => some vmread
  | 24 => some vmresume
  | 25 => some vmwrite
  | 26 => some vmxoff
  | 27 => some vmxon
  | 28 => some controlRegisterAccesses
  | 29 => some movDr
  | 30 => some ioInstruction
  | 31 => some rdmsr
  | 32 => some wrmsr
  | 33 => some vmEntryFailureInvalidGuestState
  | 34 => some vmEntryFailureMsrLoading
  | 36 => some mwait
  | 37 => some monitorTrapFlag
  | 39 => some monitor
  | 40 => some pause
  | 41 => some vmEntryFailureMachineCheckEvent
  | 43 => some tprBelowThreshold
  | 44 => some apicAccess
  | 45 => some virtualizedEoi
  | 46 => some accessToGdtrOrIdtr
  | 47 => some accessToLdtrOrTr
  | 48 => some eptViolation
  | 49 => some eptMisconfiguration
  | 50 => some invept
  | 51 => some rdtscp
  | 52 => some vmxPreemptionTimerExpired
  | 53 => some invvpid
  | 54 => some wbinvdOrWbnoinvd
  | 55 => some xsetbv
  | 56 => some apicWrite
  | 57 => some rdrand
  | 58 => some invpcid
  | 59 => some vmfunc
  | 60 => some encls
  | 61 => some rdseed
  | 62 => some pageModificationLogFull
  | 63 => some xsaves
  | 64 => some xrstors
  | _ => none

/-- The reason in an exit-reason field. Its upper half does not matter. -/
def ofWord? (word : UInt32) : Option Reason :=
  ofCode? word.toUInt16.toNat

theorem mem_all (r : Reason) : r ∈ all := by
  cases r <;> decide

/-- **A number is decoded to the reason that has it**, and to none if no reason has it. -/
theorem ofCode?_eq_some_iff {n : Nat} {r : Reason} : ofCode? n = some r ↔ r.code.toNat = n := by
  constructor
  · intro h
    unfold ofCode? at h
    -- line by line, the number decoded is that of the reason it is decoded to
    split at h <;> cases h <;> rfl
  · rintro rfl
    cases r <;> rfl

end Reason

end GuestExit
