import GuestExit.ControlRegister.Policy
import GuestExit.Proofs.Chain.Layers
import GuestExit.Proofs.ControlRegister.Answer
import GuestExit.Proofs.Exit.Interruption
import GuestExit.Proofs.Machine.Fields
import GuestExit.Proofs.Vm.Life
import GuestExit.Script.Handler

/-!
# VMX operation stays enabled, and hidden

CR4.VMXE has to be set for as long as the guest runs, and the guest is to believe that it
is clear. Two policies see to that. `hideVmxe` grants every write of CR4, with the bit
set in the register and clear in its shadow. `rejectReserved` refuses values with
reserved bits. It has to be asked first, since `hideVmxe` never declines, and that
means registered later.

`Guarded` is the shape of a chain with the two in that order. Between them, above them and
below `rejectReserved` there may be any number of bystanders, and below `hideVmxe`
anything at all, for nothing below it is asked. The shape survives whatever
happens to the virtualizer, if only bystanders are registered for writes of CR4 from
then on; so every such write of a run is decided by the two policies and by nobody
else (`Refused`, `Granted`).

The invariant `VmxeHidden` is about the machine, not about the handlers. It takes one more thing:
that nothing but writes of CR4 by the guest changes CR4 and its shadow.
-/

namespace GuestExit

/-! ## Bits -/

section Bits

variable {v b x mask : UInt64}

theorem or_and_eq_zero (hv : v &&& x = 0) (hb : b &&& x = 0) : (v ||| b) &&& x = 0 := by
  have hor : (v ||| b) &&& x = (v &&& x) ||| (b &&& x) := by
    apply UInt64.eq_of_toBitVec_eq
    ext i hi
    simp only [UInt64.toBitVec_and, UInt64.toBitVec_or, BitVec.getElem_and, BitVec.getElem_or]
    exact Bool.and_or_distrib_right ..
  rw [hor, hv, hb, UInt64.or_self]

/-- The guest reads the bits that the hypervisor owns from the shadow and the others from the
register. If it owns the bits `b`, which are set in the register and clear in the shadow, the guest
reads what it wrote, without them. -/
theorem readBack_of_owned (owned : mask &&& b = b) :
    ((v ||| b) &&& ~~~mask) ||| ((v &&& ~~~b) &&& mask) = v &&& ~~~b := by
  have howned := congrArg UInt64.toBitVec owned
  apply UInt64.eq_of_toBitVec_eq
  ext i hi
  have hbit : (mask.toBitVec[i] && b.toBitVec[i]) = b.toBitVec[i] := by
    have h := congrArg (fun x : BitVec 64 => x[i]) howned
    simpa using h
  simp only [UInt64.toBitVec_and, UInt64.toBitVec_or, UInt64.toBitVec_not, BitVec.getElem_or,
    BitVec.getElem_and, BitVec.getElem_not]
  revert hbit
  cases v.toBitVec[i] <;> cases b.toBitVec[i] <;> cases mask.toBitVec[i] <;> simp

end Bits

namespace ControlRegister

open ExitM

/-! ## A write of CR4 -/

/-- A write of CR4 is refused: a protection fault with error code 0 is due, and nothing else has
changed, neither CR4 and its shadow nor the instruction pointer nor any saved register. -/
structure Refused (m m' : Machine) : Prop where
  event : Interruption.ofWord? (m'.vmcs.read .entryInterruption).toUInt32
    = some { vector := 13, kind := .hardwareException, hasErrorCode := true, nmiUnblocking := false }
  errorCode : m'.vmcs.read .entryErrorCode = 0
  fields : ∀ f, f ≠ .entryInterruption → f ≠ .entryErrorCode → m'.vmcs.read f = m.vmcs.read f
  saved : m'.saved = m.saved

/-- A write of `v` to CR4 is granted. -/
structure Granted (v : UInt64) (m m' : Machine) : Prop where
  /-- VMX operation is enabled, -/
  cr4 : m'.vmcs.read .guestCr4 = v ||| Cr4.vmxe
  /-- but not in the shadow. -/
  shadow : m'.vmcs.read .cr4Shadow = v &&& ~~~Cr4.vmxe
  /-- The instruction pointer is moved, in both places. -/
  rip : m'.vmcs.read .guestRip
    = m.vmcs.read .guestRip + instructionStep (m.vmcs.read .exitInstructionLength)
  saved : m'.saved = m.saved.write .rip (m'.vmcs.read .guestRip)
  /-- Nothing else has changed. In particular no event is due that was not due before. -/
  fields : ∀ f, f ≠ .guestCr4 → f ≠ .cr4Shadow → f ≠ .guestRip →
    m'.vmcs.read f = m.vmcs.read f
  /-- Whatever other bits the hypervisor owns, the guest reads what it wrote, without VMXE. -/
  readBack : ∀ mask : UInt64, mask &&& Cr4.vmxe = Cr4.vmxe →
    (m'.vmcs.read .guestCr4 &&& ~~~mask) ||| (m'.vmcs.read .cr4Shadow &&& mask)
      = v &&& ~~~Cr4.vmxe

/-- VMX operation is enabled, no reserved bit of CR4 is set, and the shadow does not show VMXE. -/
structure VmxeHidden (m : Machine) : Prop where
  enabled : m.vmcs.read .guestCr4 &&& Cr4.vmxe = Cr4.vmxe
  defined : m.vmcs.read .guestCr4 &&& ~~~Cr4.defined = 0
  hidden : m.vmcs.read .cr4Shadow &&& Cr4.vmxe = 0

theorem VmxeHidden.refused {m m' : Machine} (h : VmxeHidden m) (hr : Refused m m') :
    VmxeHidden m' := by
  have hcr4 := hr.fields .guestCr4 (by decide) (by decide)
  have hshadow := hr.fields .cr4Shadow (by decide) (by decide)
  exact ⟨hcr4 ▸ h.enabled, hcr4 ▸ h.defined, hshadow ▸ h.hidden⟩

/-- A write that is granted restores the invariant, whether it held before or not. -/
theorem VmxeHidden.granted {v : UInt64} {m m' : Machine} (hv : v &&& ~~~Cr4.defined = 0)
    (hg : Granted v m m') : VmxeHidden m' := by
  constructor
  · rw [hg.cr4]
    exact or_and_self _ _
  · rw [hg.cr4]
    exact or_and_eq_zero hv (by decide)
  · rw [hg.shadow]
    exact and_not_and_self _ _

/-- The descriptor as `hideVmxe` leaves it. -/
def Descriptor.hidden (info : Descriptor) : Descriptor :=
  { info with value := info.value ||| Cr4.vmxe, shadow := info.value &&& ~~~Cr4.vmxe }

/-- The descriptor as `rejectReserved` leaves it if it refuses the value. -/
def Descriptor.dropped (info : Descriptor) : Descriptor :=
  { info with ignoreWrite := true, ignoreAdvance := true }

/-- The machine with a protection fault due on the next entry. -/
def faulted (m : Machine) : Machine :=
  m.perform [.write .entryErrorCode 0,
    .write .entryInterruption Interruption.protectionFault.word.toUInt64]

/-- What the two policies together make of a write: the descriptor and the machine. -/
def verdict (info : Descriptor) (m : Machine) : Descriptor × Machine :=
  if info.value &&& ~~~Cr4.defined = 0 then (info.hidden, m) else (info.dropped, faulted m)

theorem refused_faulted (m : Machine) : Refused m (faulted m) := by
  have hread : ∀ f, (faulted m).vmcs.read f = if f = .entryInterruption
      then Interruption.protectionFault.word.toUInt64
      else if f = .entryErrorCode then 0 else m.vmcs.read f := fun f => by
    simp [faulted, Vmcs.read_write]
  constructor
  · rw [hread, if_pos rfl, UInt32.toUInt32_toUInt64]
    exact Interruption.ofWord?_word _
  · rw [hread]
    rfl
  · intro f hi he
    rw [hread, if_neg hi, if_neg he]
  · rfl

theorem granted_aftermath (g : Gpr) (info : Descriptor) (m : Machine)
    (hw : info.ignoreWrite = false) (ha : info.ignoreAdvance = false) :
    Granted info.value m (m.perform (Trap.writeCr4.aftermath g info.hidden m)) := by
  generalize hm' : m.perform (Trap.writeCr4.aftermath g info.hidden m) = m'
  have hafter : m' = m.perform ([.write .guestCr4 (info.value ||| Cr4.vmxe),
      .write .cr4Shadow (info.value &&& ~~~Cr4.vmxe)] ++ m.advancement) := by
    rw [← hm']
    simp [Trap.aftermath, Trap.transfer, Descriptor.hidden, hw, ha]
  have hread : ∀ f, m'.vmcs.read f = if f = .guestRip
      then m.vmcs.read .guestRip + instructionStep (m.vmcs.read .exitInstructionLength)
      else if f = .cr4Shadow then info.value &&& ~~~Cr4.vmxe
      else if f = .guestCr4 then info.value ||| Cr4.vmxe else m.vmcs.read f := fun f => by
    rw [hafter]
    simp [Machine.advancement, Vmcs.read_write]
  have hcr4 : m'.vmcs.read .guestCr4 = info.value ||| Cr4.vmxe := by rw [hread]; rfl
  have hshadow : m'.vmcs.read .cr4Shadow = info.value &&& ~~~Cr4.vmxe := by rw [hread]; rfl
  have hrip := (hread .guestRip).trans (if_pos rfl)
  refine ⟨hcr4, hshadow, hrip, ?_, fun f h₁ h₂ h₃ => ?_, fun mask owned => ?_⟩
  · rw [hrip, hafter]
    rfl
  · rw [hread, if_neg h₃, if_neg h₂, if_neg h₁]
  · rw [hcr4, hshadow]
    exact readBack_of_owned owned

/-! ## Decisions of a chain -/

variable {σ : Type}

/-- A dispatch on a machine that claims, with the descriptor and the machine in `r` as the result,
and leaves a chain of a certain kind. -/
structure Decides (kind : Chain σ Descriptor → Prop) (m : Machine) (r : Descriptor × Machine)
    (d : Outcome (Dispatch σ Descriptor)) : Prop where
  claimed : d.value.claimed = true
  info : d.value.info = r.1
  machine : m.perform d.effects = r.2
  chain : kind d.value.chain

/-- A bystander does not change a decision. -/
theorem Decides.past {kind : Chain σ Descriptor → Prop} {chain : Chain σ Descriptor}
    {info : Descriptor} {m : Machine} {r : Descriptor × Machine}
    (d : Decides kind m r (chain.dispatch info m)) {h : Handler σ Descriptor} (b : h.Bystander)
    (hkind : ∀ {c : Chain σ Descriptor} s, kind c → kind (c.register { h with state := s })) :
    Decides kind m r ((chain.register h).dispatch info m) := by
  obtain ⟨hclaimed, hinfo, hmachine, hchain⟩ := Chain.dispatch_bystander b chain info m
  constructor
  · rw [hclaimed, d.claimed]
  · rw [hinfo, d.info]
  · rw [hmachine, d.machine]
  · rw [hchain]
    exact hkind _ d.chain

/-! ## The two policies -/

variable [Inhabited σ]

/-- The handler that hides VMXE. -/
def hider : Handler σ Descriptor := .stateless hideVmxe

/-- The handler that refuses reserved bits. -/
def guard : Handler σ Descriptor := .stateless rejectReserved

theorem react_guard_of_defined {info : Descriptor} (h : info.value &&& ~~~Cr4.defined = 0) (s : σ)
    (m : Machine) : guard.react s info m = ⟨⟨s, info, false⟩, []⟩ := by
  simp [guard, Handler.stateless, rejectReserved, h, pure_apply]

theorem react_guard_of_reserved {info : Descriptor} (h : info.value &&& ~~~Cr4.defined ≠ 0) (s : σ)
    (m : Machine) :
    (guard.react s info m).value = ⟨s, info.dropped, true⟩
      ∧ (guard.react s info).final m = faulted m := by
  have hreject : rejectReserved info = (do
      report (.reservedBits (info.value &&& ~~~Cr4.defined))
      injectFault 0
      return (info.dropped, true)) := if_neg h
  constructor
  · simp [guard, Handler.stateless, hreject]
  · simp [guard, Handler.stateless, hreject, injectFault, faulted,
      Interruption.packErrorCode_protectionFault]

/-- A chain in which the first handler that does anything hides VMXE. -/
inductive Hides : Chain σ Descriptor → Prop where
  | policy (older : Chain σ Descriptor) : Hides (older.register hider)
  | bystander {chain : Chain σ Descriptor} {h : Handler σ Descriptor} :
    Hides chain → h.Bystander → Hides (chain.register h)

/-- A chain in which the first handler that does anything refuses reserved bits, and the second one
hides VMXE. -/
inductive Guarded : Chain σ Descriptor → Prop where
  | policy {chain : Chain σ Descriptor} : Hides chain → Guarded (chain.register guard)
  | bystander {chain : Chain σ Descriptor} {h : Handler σ Descriptor} :
    Guarded chain → h.Bystander → Guarded (chain.register h)

theorem Hides.dispatch {chain : Chain σ Descriptor} (hides : Hides chain) (info : Descriptor)
    (m : Machine) : Decides Hides m (info.hidden, m) (chain.dispatch info m) := by
  induction hides with
  | policy older =>
    unfold Chain.register
    rw [Chain.dispatch_cons]
    exact ⟨rfl, rfl, rfl, .policy older⟩
  | bystander _ b ih => exact ih.past b fun s hc => .bystander hc (b.withState s)

/-- **A guarded chain decides as the two policies do**, and stays guarded. -/
theorem Guarded.dispatch {chain : Chain σ Descriptor} (guarded : Guarded chain) (info : Descriptor)
    (m : Machine) : Decides Guarded m (verdict info m) (chain.dispatch info m) := by
  induction guarded with
  | @policy below hides =>
    unfold Chain.register verdict
    rw [Chain.dispatch_cons]
    dsimp only
    by_cases h : info.value &&& ~~~Cr4.defined = 0
    · have d := hides.dispatch info m
      rw [react_guard_of_defined h, if_pos h]
      exact ⟨d.claimed, d.info, d.machine, .policy d.chain⟩
    · obtain ⟨hvalue, hfinal⟩ := react_guard_of_reserved h (guard (σ := σ)).state m
      rw [hvalue, if_neg h]
      exact ⟨rfl, rfl, hfinal, .policy hides⟩
  | bystander _ b ih => exact ih.past b fun s hc => .bystander hc (b.withState s)

/-! ## The life of the virtualizer -/

/-- **A write of CR4 is decided by the two policies**, with whatever operand and whatever value. -/
theorem Guarded.handle {v : Virtualizer σ} (guarded : Guarded (v.chains.get .writeCr4)) {m : Machine}
    {g : Gpr} (h : Trap.ofWord? (m.vmcs.read .exitQualification) = some (.writeCr4, g)) :
    (v.handle m).value.result = .ok true
      ∧ (m.gpr g &&& ~~~Cr4.defined ≠ 0 → Refused m (m.perform (v.handle m).effects))
      ∧ (m.gpr g &&& ~~~Cr4.defined = 0 →
        Granted (m.gpr g) m (m.perform (v.handle m).effects)) := by
  have d : Decides Guarded m (verdict (Trap.writeCr4.initial g m) m) (v.ask .writeCr4 g m) :=
    guarded.dispatch _ _
  -- what follows on the claim goes by the descriptor and the machine that the policies leave
  have hmachine : m.perform (v.handle m).effects = _ := Virtualizer.perform_handle h
  rw [Virtualizer.consequence_of_claimed d.claimed, d.info, d.machine] at hmachine
  refine ⟨?_, fun hv => ?_, fun hv => ?_⟩
  · rw [Virtualizer.value_handle h, d.claimed]
  · have hverdict : verdict (Trap.writeCr4.initial g m) m
        = ((Trap.writeCr4.initial g m).dropped, faulted m) := if_neg hv
    rw [hmachine, hverdict]
    exact refused_faulted m
  · have hverdict : verdict (Trap.writeCr4.initial g m) m
        = ((Trap.writeCr4.initial g m).hidden, m) := if_pos hv
    rw [hmachine, hverdict]
    exact granted_aftermath g (Trap.writeCr4.initial g m) m rfl rfl

/-- **The two policies stay in charge** whatever happens to the virtualizer, if only bystanders are
registered and it is not replaced. -/
theorem Guarded.undergo {v : Virtualizer σ} (guarded : Guarded (v.chains.get .writeCr4))
    {i : Incident (Trap × Handler σ Descriptor)} (kept : i ≠ .replaced)
    (polite : ∀ h, i = .registered (.writeCr4, h) → h.Bystander) :
    Guarded ((v.undergo i).chains.get .writeCr4) := by
  cases i with
  | registered p =>
    obtain ⟨t, h⟩ := p
    show Guarded ((v.chains.set t ((v.chains.get t).register h)).get .writeCr4)
    rw [PerTrap.get_set]
    split
    · next e =>
      subst e
      exact .bystander guarded (polite h rfl)
    · exact guarded
  | switched on => exact guarded
  | exited m =>
    show Guarded ((v.handle m).value.virtualizer.chains.get .writeCr4)
    cases h : Trap.ofWord? (m.vmcs.read .exitQualification) with
    | none =>
      obtain ⟨e, hvalue, -⟩ := v.handle_of_untrapped h
      rw [hvalue]
      exact guarded
    | some p =>
      obtain ⟨t, g⟩ := p
      rw [Virtualizer.value_handle h]
      show Guarded ((v.chains.set t (v.ask t g m).value.chain).get .writeCr4)
      rw [PerTrap.get_set]
      split
      · next e =>
        subst e
        exact (guarded.dispatch _ _).chain
      · exact guarded
  | replaced => exact absurd rfl kept

theorem guarded_after {vm : Vm σ} (guarded : Guarded (vm.controlRegister.chains.get .writeCr4))
    {steps : List (Step σ)} (kept : .replace .controlRegister ∉ steps)
    (polite : ∀ h, .addAccessHandler .writeCr4 h ∈ steps → h.Bystander) :
    Guarded ((vm.after steps).controlRegister.chains.get .writeCr4) := by
  refine accesses.get_after_induction (P := fun v => Guarded (v.chains.get .writeCr4)) guarded
    fun v i hi hv => ?_
  refine hv.undergo (fun e => ?_) (fun h e => ?_)
  · subst e
    exact accesses.replaced_notMem_history kept hi
  · subst e
    obtain ⟨s, hs, hr⟩ := accesses.registered_mem_history hi
    cases s with
    | addAccessHandler t h' =>
      obtain ⟨rfl, rfl⟩ := Prod.mk.inj (Option.some.inj hr)
      exact polite _ hs
    | _ => exact absurd hr (by simp [accesses])

/-! ## Runs -/

/-- In this step the guest's write of a general-purpose register to CR4 is handled. -/
def WritesCr4 (vm : Vm σ) (s : Step σ) (g : Gpr) : Prop :=
  vm.serves s = some .controlRegister
    ∧ Trap.ofWord? vm.qualificationWord = some (.writeCr4, g)

/-- This step leaves CR4 and its shadow alone. -/
def LeavesCr4 (vm : Vm σ) (s : Step σ) : Prop :=
  (VmM.step s vm).vm.machine.vmcs.read .guestCr4 = vm.machine.vmcs.read .guestCr4
    ∧ (VmM.step s vm).vm.machine.vmcs.read .cr4Shadow = vm.machine.vmcs.read .cr4Shadow

theorem leavesCr4_addAccessHandler (vm : Vm σ) (t : Trap) (h : Handler σ Descriptor) :
    LeavesCr4 vm (.addAccessHandler t h) :=
  ⟨rfl, rfl⟩

/-- So does a change of the machine that is about other fields. -/
theorem leavesCr4_assign (vm : Vm σ) {fields : List (Field × UInt64)}
    (hcr4 : .guestCr4 ∉ fields.map Prod.fst) (hshadow : .cr4Shadow ∉ fields.map Prod.fst)
    (registers : List (Register × UInt64)) : LeavesCr4 vm (.assign fields registers) :=
  ⟨Vmcs.read_foldl_write hcr4 _, Vmcs.read_foldl_write hshadow _⟩

theorem step_of_guarded {vm : Vm σ} (guarded : Guarded (vm.controlRegister.chains.get .writeCr4))
    {s : Step σ} {g : Gpr} (h : WritesCr4 vm s g) :
    (VmM.step s vm).value = s.accepted
      ∧ (vm.machine.gpr g &&& ~~~Cr4.defined ≠ 0 →
        Refused vm.machine (VmM.step s vm).vm.machine)
      ∧ (vm.machine.gpr g &&& ~~~Cr4.defined = 0 →
        Granted (vm.machine.gpr g) vm.machine (VmM.step s vm).vm.machine) := by
  obtain ⟨hserves, hword⟩ := h
  obtain ⟨hresult, hdecided⟩ := guarded.handle hword
  obtain ⟨hvalue, hvm, -⟩ := VmM.step_of_claimed hserves hresult
  rw [hvm]
  exact ⟨hvalue, hdecided⟩

/-- **The invariant is kept by every step** that handles a write of CR4 or leaves it alone. -/
theorem vmxeHidden_step {vm : Vm σ} (guarded : Guarded (vm.controlRegister.chains.get .writeCr4))
    {s : Step σ} (h : VmxeHidden vm.machine) (hs : (∃ g, WritesCr4 vm s g) ∨ LeavesCr4 vm s) :
    VmxeHidden (VmM.step s vm).vm.machine := by
  rcases hs with ⟨g, hw⟩ | ⟨hcr4, hshadow⟩
  · obtain ⟨-, hrefused, hgranted⟩ := step_of_guarded guarded hw
    by_cases hv : vm.machine.gpr g &&& ~~~Cr4.defined = 0
    · exact .granted hv (hgranted hv)
    · exact h.refused (hrefused hv)
  · exact ⟨hcr4 ▸ h.enabled, hcr4 ▸ h.defined, hshadow ▸ h.hidden⟩

/--
**The guest can write CR4 as it likes: VMX operation stays enabled, and hidden.** Let the two
policies be in charge of CR4, and let only bystanders be registered for it afterwards. Then in every
run each write of CR4 is accepted, refused with a protection fault if the value has reserved bits,
and granted without VMXE otherwise. So if nothing else writes CR4 or its shadow in the run, the
invariant holds after each of its steps if it held at the start.
-/
theorem vmxe_stays_hidden (vm : Vm σ) (steps : List (Step σ))
    (guarded : Guarded (vm.controlRegister.chains.get .writeCr4))
    (kept : .replace .controlRegister ∉ steps)
    (polite : ∀ h, .addAccessHandler .writeCr4 h ∈ steps → h.Bystander) :
    (∀ before s later g, steps = before ++ s :: later → WritesCr4 (vm.after before) s g →
      let now := vm.after before
      let next := (VmM.step s now).vm
      (VmM.step s now).value = s.accepted
        ∧ (now.machine.gpr g &&& ~~~0x1ff7fff ≠ 0 → Refused now.machine next.machine)
        ∧ (now.machine.gpr g &&& ~~~0x1ff7fff = 0 →
          Granted (now.machine.gpr g) now.machine next.machine))
    ∧ (VmxeHidden vm.machine →
      (∀ before s later, steps = before ++ s :: later →
        (∃ g, WritesCr4 (vm.after before) s g) ∨ LeavesCr4 (vm.after before) s) →
      ∀ before later, steps = before ++ later → VmxeHidden (vm.after before).machine) := by
  have hguarded : ∀ before later, steps = before ++ later →
      Guarded ((vm.after before).controlRegister.chains.get .writeCr4) := by
    intro before later e
    subst e
    exact guarded_after guarded (fun h => kept (List.mem_append_left _ h))
      fun h hh => polite h (List.mem_append_left _ hh)
  constructor
  · intro before s later g e hw
    exact step_of_guarded (hguarded before (s :: later) e) hw
  · intro hstart hsteps before later e
    refine Vm.after_induction (P := fun vm => VmxeHidden vm.machine) e hstart ?_
    intro before s later e' hhidden
    exact vmxeHidden_step (hguarded before _ e') hhidden (hsteps before s later e')

/-- The guest sets VMXE itself and is granted the rest, then tries bit 15 and gets a fault, with a
bystander between the policies and one on top that comes later. -/
theorem vmxe_stays_hidden_behind_bystanders :
    let watcher := Script.accessHandler "watches" [] (.always false)
    let m : Machine :=
      { vmcs := ((({} : Vmcs).write .exitReason 28).write .exitQualification 0x104).write
          .guestCr4 0x2020
        saved := ({} : Registers).write (.gpr 1) 0x2620 }
    let vm : Vm Script.Tally := (Vm.create m).1.after
      [.addAccessHandler .writeCr4 (.stateless hideVmxe), .addAccessHandler .writeCr4 watcher,
        .addAccessHandler .writeCr4 (.stateless rejectReserved)]
    let pause : List (Step Script.Tally) :=
      [.resolve, .addAccessHandler .writeCr4 watcher, .assign [] [(.gpr 1, 0x8000)]]
    let steps := pause ++ [.exit]
    Guarded (vm.controlRegister.chains.get .writeCr4)
      ∧ .replace .controlRegister ∉ steps
      ∧ (∀ h, .addAccessHandler .writeCr4 h ∈ steps → h.Bystander)
      ∧ VmxeHidden vm.machine
      ∧ Granted 0x2620 vm.machine (vm.after [.resolve]).machine
      ∧ Refused (vm.after pause).machine (vm.after steps).machine
      ∧ VmxeHidden (vm.after steps).machine := by
  intro watcher m vm pause steps
  have hwatcher : watcher.Bystander := ⟨fun _ _ _ => rfl, fun _ _ _ => rfl, fun _ _ _ => rfl⟩
  have guarded : Guarded (vm.controlRegister.chains.get .writeCr4) :=
    .policy (.bystander (.policy []) hwatcher)
  have kept : .replace .controlRegister ∉ steps := by simp [steps, pause]
  have polite : ∀ h, .addAccessHandler .writeCr4 h ∈ steps → h.Bystander := by
    intro h hh
    have e : h = watcher := by simpa [steps, pause] using hh
    exact e ▸ hwatcher
  have hstart : VmxeHidden vm.machine := ⟨by decide, by decide, by decide⟩
  have hfirst : WritesCr4 (vm.after []) .resolve 1 := ⟨by decide, by decide⟩
  have hlast : WritesCr4 (vm.after pause) .exit 1 := ⟨by decide, by decide⟩
  obtain ⟨hdecided, hhidden⟩ := vmxe_stays_hidden vm steps guarded kept polite
  obtain ⟨-, -, hgranted⟩ := hdecided [] .resolve _ 1 rfl hfirst
  obtain ⟨-, hrefused, -⟩ := hdecided pause .exit [] 1 rfl hlast
  have hoperand : (vm.after []).machine.gpr 1 = 0x2620 := by decide
  rw [hoperand, Vm.after_nil] at hgranted
  have hresolved : vm.after [.resolve] = (VmM.step .resolve vm).vm := rfl
  have hafter : vm.after steps = (VmM.step .exit (vm.after pause)).vm := Vm.after_append ..
  refine ⟨guarded, kept, polite, hstart, ?_, ?_, ?_⟩
  · rw [hresolved]
    exact hgranted (by decide)
  · rw [hafter]
    exact hrefused (by decide)
  · refine hhidden hstart ?_ steps [] (List.append_nil _).symm
    intro before s later e
    have hsplit : [.resolve, .addAccessHandler .writeCr4 watcher, .assign [] [(.gpr 1, 0x8000)],
      .exit] = before ++ s :: later := e
    -- one case for each of the four steps
    rcases before with _ | ⟨_, _ | ⟨_, _ | ⟨_, _ | ⟨_, before⟩⟩⟩⟩
    · cases hsplit
      exact .inl ⟨1, hfirst⟩
    · cases hsplit
      exact .inr (leavesCr4_addAccessHandler _ _ _)
    · cases hsplit
      exact .inr (leavesCr4_assign _ (by simp) (by simp) _)
    · cases hsplit
      exact .inl ⟨1, hlast⟩
    · simp at hsplit

end ControlRegister

end GuestExit
