import GuestExit.Proofs.Chain.Layers
import GuestExit.Proofs.ControlRegister.Answer
import GuestExit.Proofs.Machine.Fields
import GuestExit.Proofs.Machine.Operands
import GuestExit.Proofs.Vm.Life
import GuestExit.Script.Handler

/-!
# A virtual CR3

A hypervisor can let the guest run with another CR3 than the one it asked for. The guest's writes
are mapped by one function and its reads by another, and if the second undoes the first the guest
never finds out: what it loads into CR3 from one register it stores back into any other. `Maps` says
of a chain that all it does is to apply such a function. `Loaded` and `Stored` are what a single
access comes to then, as equations that read off every field and every saved register; a round trip
is the two of them in sequence, with nothing in between but the details of the second exit.

RSP is the register to look out for. As a source it is read from the control structure, as a
destination it is written there and to its stale copy.
-/

namespace GuestExit.ControlRegister

open ExitM

variable {σ : Type}

/-! ## Chains that map the value -/

/-- A chain that claims every access, maps the value by a function and touches nothing else. Its
handlers may tell the log something and have states of their own. -/
structure Maps (f : UInt64 → UInt64) (chain : Chain σ Descriptor) : Prop where
  claims : ∀ info m, (chain.dispatch info m).value.claimed = true
  value : ∀ info m, (chain.dispatch info m).value.info = { info with value := f info.value }
  leaves : ∀ info m, (chain.dispatch info).final m = m

/-- Maps the value by a function. Claims every access. -/
def mapValue (f : UInt64 → UInt64) (info : Descriptor) : ExitM (Descriptor × Bool) :=
  return ({ info with value := f info.value }, true)

theorem maps_mapValue [Inhabited σ] (f : UInt64 → UInt64) (older : Chain σ Descriptor) :
    Maps f (older.register (.stateless (mapValue f))) := by
  have hdispatch : ∀ info m,
      ((older.register (.stateless (mapValue f))).dispatch info m).value.claimed = true
        ∧ ((older.register (.stateless (mapValue f))).dispatch info m).value.info
          = { info with value := f info.value }
        ∧ ((older.register (.stateless (mapValue f))).dispatch info m).effects = [] := by
    intro info m
    unfold Chain.register
    rw [Chain.dispatch_cons]
    exact ⟨rfl, rfl, rfl⟩
  refine ⟨fun info m => (hdispatch info m).1, fun info m => (hdispatch info m).2.1,
    fun info m => ?_⟩
  unfold final
  rw [(hdispatch info m).2.2]
  rfl

theorem Maps.past {f : UInt64 → UInt64} {chain : Chain σ Descriptor} (maps : Maps f chain)
    {h : Handler σ Descriptor} (b : h.Bystander) : Maps f (chain.register h) := by
  refine ⟨fun info m => ?_, fun info m => ?_, fun info m => ?_⟩
  · exact (Chain.dispatch_bystander b chain info m).1.trans (maps.claims info m)
  · exact (Chain.dispatch_bystander b chain info m).2.1.trans (maps.value info m)
  · exact (Chain.dispatch_bystander b chain info m).2.2.1.trans (maps.leaves info m)

/-! ## A single access -/

/-- In this step the guest's access of trap `t` with operand `g` is handled, however it is taken. -/
def Accesses (vm : Vm σ) (s : Step σ) (t : Trap) (g : Gpr) : Prop :=
  vm.serves s = some .controlRegister ∧ Trap.ofWord? vm.qualificationWord = some (t, g)

/-- CR3 was loaded with `v`. -/
structure Loaded (v : UInt64) (m m' : Machine) : Prop where
  fields : ∀ f, m'.vmcs.read f = if f = .guestRip then m.nextRip
    else if f = .guestCr3 then v else m.vmcs.read f
  saved : ∀ r, m'.saved.read r = if r = .rip then m.nextRip else m.saved.read r
  gprs : ∀ h, m'.gpr h = m.gpr h

/-- The value `v` was stored in a register. -/
structure Stored (g : Gpr) (v : UInt64) (m m' : Machine) : Prop where
  fields : ∀ f, m'.vmcs.read f = if f = .guestRip then m.nextRip
    else if g = Gpr.rsp ∧ f = .guestRsp then v else m.vmcs.read f
  saved : ∀ r, m'.saved.read r = if r = .rip then m.nextRip
    else if r = .gpr g then v else m.saved.read r
  gprs : ∀ h, m'.gpr h = if h = g then v else m.gpr h

/-- **An access whose handlers only map the value** is accepted, and carried out with the value they
map it to. The handlers of other traps stay. -/
theorem step_of_maps [Inhabited σ] {vm : Vm σ} {s : Step σ} {t : Trap} {g : Gpr}
    {f : UInt64 → UInt64} (maps : Maps f (vm.controlRegister.chains.get t))
    (h : Accesses vm s t g) :
    let info := t.initial g vm.machine
    (VmM.step s vm).value = s.accepted
      ∧ (VmM.step s vm).vm.machine
        = vm.machine.perform (t.aftermath g { info with value := f info.value } vm.machine)
      ∧ ∀ u, u ≠ t → (VmM.step s vm).vm.controlRegister.chains.get u
        = vm.controlRegister.chains.get u := by
  obtain ⟨hserves, hword⟩ := h
  have hclaimed : (vm.controlRegister.ask t g vm.machine).value.claimed = true := maps.claims _ _
  have hinfo : (vm.controlRegister.ask t g vm.machine).value.info = _ := maps.value _ _
  have hleaves : vm.machine.perform (vm.controlRegister.ask t g vm.machine).effects = vm.machine :=
    maps.leaves _ _
  have hvalue := Virtualizer.value_handle (v := vm.controlRegister) hword
  have hmachine := Virtualizer.perform_handle (v := vm.controlRegister) hword
  rw [Virtualizer.consequence_of_claimed hclaimed, hinfo, hleaves] at hmachine
  have hresult : (VmM.handle .controlRegister vm).value = .ok true := by
    show (vm.controlRegister.handle vm.machine).value.result = .ok true
    rw [hvalue, hclaimed]
  obtain ⟨haccepted, hvm, -⟩ := VmM.step_of_claimed hserves hresult
  refine ⟨haccepted, ?_, fun u hu => ?_⟩
  · rw [hvm]
    exact hmachine
  · rw [hvm]
    show (vm.controlRegister.handle vm.machine).value.virtualizer.chains.get u = _
    rw [hvalue]
    exact (PerTrap.get_set ..).trans (if_neg hu)

theorem loaded_aftermath (g : Gpr) (v : UInt64) (m : Machine) :
    Loaded v m (m.perform (Trap.writeCr3.aftermath g { value := v } m)) := by
  have hafter : m.perform (Trap.writeCr3.aftermath g { value := v } m)
      = ((write .guestCr3 v).final m).perform m.advancement := rfl
  rw [hafter]
  refine ⟨fun f => ?_, fun r => Machine.saved_advancement .., fun h => ?_⟩
  · rw [Machine.read_advancement, final_write, Vmcs.read_write]
  · have hstack : Field.guestRsp ≠ .guestCr3 := by decide
    rw [Machine.gpr_advancement, final_write]
    unfold Machine.gpr
    rw [Vmcs.read_write_of_ne _ _ hstack]

theorem stored_aftermath (g : Gpr) (v : UInt64) (m : Machine) :
    Stored g v m (m.perform (Trap.readCr3.aftermath g { value := v } m)) := by
  have hafter : m.perform (Trap.readCr3.aftermath g { value := v } m)
      = ((writeGpr g v).final m).perform m.advancement := by
    unfold final
    rw [effects_writeGpr]
    exact Machine.perform_append ..
  rw [hafter]
  refine ⟨fun f => ?_, fun r => ?_, fun h => ?_⟩
  · rw [Machine.read_advancement, read_writeGpr]
  · rw [Machine.saved_advancement, saved_writeGpr]
  · rw [Machine.gpr_advancement, gpr_writeGpr]

section Steps

variable [Inhabited σ] {vm : Vm σ} {s : Step σ}

/-- A step that loads CR3 by way of handlers that map the value. -/
theorem loaded_step {f : UInt64 → UInt64} {g : Gpr}
    (writes : Maps f (vm.controlRegister.chains.get .writeCr3)) (h : Accesses vm s .writeCr3 g) :
    (VmM.step s vm).value = s.accepted
      ∧ Loaded (f (vm.machine.gpr g)) vm.machine (VmM.step s vm).vm.machine
      ∧ (VmM.step s vm).vm.controlRegister.chains.get .readCr3
        = vm.controlRegister.chains.get .readCr3 := by
  obtain ⟨haccepted, hmachine, hothers⟩ := step_of_maps writes h
  refine ⟨haccepted, ?_, hothers _ (by decide)⟩
  rw [hmachine]
  exact loaded_aftermath g _ _

/-- A step that stores CR3 by way of handlers that map the value. -/
theorem stored_step {f : UInt64 → UInt64} {g : Gpr}
    (reads : Maps f (vm.controlRegister.chains.get .readCr3)) (h : Accesses vm s .readCr3 g) :
    (VmM.step s vm).value = s.accepted
      ∧ Stored g (f (vm.machine.vmcs.read .guestCr3)) vm.machine (VmM.step s vm).vm.machine
      ∧ (VmM.step s vm).vm.controlRegister.chains.get .writeCr3
        = vm.controlRegister.chains.get .writeCr3 := by
  obtain ⟨haccepted, hmachine, hothers⟩ := step_of_maps reads h
  refine ⟨haccepted, ?_, hothers _ (by decide)⟩
  rw [hmachine]
  exact stored_aftermath g _ _

end Steps

/-! ## Round trips -/

/-- Two accesses led from `m` to `m'`, the second of them taken on `between`, and left `v` in the
register `g` and `w` in CR3. The fields in `given` were set between the two. -/
structure RoundTrip (g : Gpr) (v w : UInt64) (given : List Field) (m between m' : Machine) :
    Prop where
  register : m'.gpr g = v
  cr3 : m'.vmcs.read .guestCr3 = w
  /-- The guest finds all other registers as they were, -/
  others : ∀ h, h ≠ g → m'.gpr h = m.gpr h
  /-- and so are the saved ones, -/
  saved : ∀ h, h ≠ g → m'.saved.read (.gpr h) = m.saved.read (.gpr h)
  /-- with the flags. -/
  rflags : m'.saved.read .rflags = m.saved.read .rflags
  /-- The instruction pointer was moved behind both instructions, -/
  rip : m'.vmcs.read .guestRip = m.vmcs.read .guestRip
    + instructionStep (m.vmcs.read .exitInstructionLength)
    + instructionStep (between.vmcs.read .exitInstructionLength)
  /-- and its copy with it. -/
  savedRip : m'.saved.read .rip = m'.vmcs.read .guestRip
  /-- Nothing else has changed. -/
  fields : ∀ f, f ≠ .guestCr3 → f ≠ .guestRip → (g = Gpr.rsp → f ≠ .guestRsp) → f ∉ given →
    m'.vmcs.read f = m.vmcs.read f

section RoundTrip

variable {g : Gpr} {v w : UInt64} {m m₁ m' : Machine} {details : List (Field × UInt64)}

/-- Details of an exit that are not about CR3, the instruction pointer or the stack pointer. -/
def Incidental (details : List (Field × UInt64)) : Prop :=
  ∀ f ∈ [Field.guestCr3, .guestRip, .guestRsp], f ∉ details.map Prod.fst

instance : Decidable (Incidental details) :=
  inferInstanceAs (Decidable (∀ f ∈ [_, _, _], f ∉ details.map Prod.fst))

theorem read_incidental (quiet : Incidental details) {f : Field}
    (hf : f ∈ [Field.guestCr3, .guestRip, .guestRsp]) :
    (m₁.assign details []).vmcs.read f = m₁.vmcs.read f :=
  Vmcs.read_foldl_write (quiet f hf) _

theorem gpr_incidental (quiet : Incidental details) (h : Gpr) :
    (m₁.assign details []).gpr h = m₁.gpr h := by
  unfold Machine.gpr
  rw [read_incidental quiet (by decide)]
  rfl

theorem Loaded.stored (quiet : Incidental details) (l : Loaded v m m₁)
    (st : Stored g w (m₁.assign details []) m') :
    RoundTrip g w v (details.map Prod.fst) m (m₁.assign details []) m' := by
  have hrip : (m₁.assign details []).vmcs.read .guestRip = m.nextRip := by
    rw [read_incidental quiet (by decide), l.fields, if_pos rfl]
  have hnext := st.fields .guestRip
  rw [if_pos rfl, Machine.nextRip, hrip] at hnext
  refine
    { register := by rw [st.gprs, if_pos rfl]
      cr3 := ?_
      others := fun h hne => ?_
      saved := fun h hne => ?_
      rflags := ?_
      rip := hnext
      savedRip := ?_
      fields := fun f hcr3 hrip hstack hgiven => ?_ }
  · rw [st.fields, if_neg (by decide), if_neg (by simp +decide), read_incidental quiet (by decide),
      l.fields, if_neg (by decide), if_pos rfl]
  · rw [st.gprs, if_neg hne, gpr_incidental quiet, l.gprs]
  · rw [st.saved, if_neg (by simp), if_neg (by simpa using hne)]
    exact (l.saved _).trans (if_neg (by simp))
  · rw [st.saved, if_neg (by decide), if_neg (by simp)]
    exact (l.saved _).trans (if_neg (by decide))
  · rw [st.saved, st.fields, if_pos rfl, if_pos rfl]
  · have hother : ¬ (g = Gpr.rsp ∧ f = .guestRsp) := fun h => hstack h.1 h.2
    rw [st.fields, if_neg hrip, if_neg hother]
    refine (Vmcs.read_foldl_write hgiven _).trans ?_
    rw [l.fields, if_neg hrip, if_neg hcr3]

theorem Stored.loaded (quiet : Incidental details) (st : Stored g w m m₁)
    (l : Loaded v (m₁.assign details []) m') :
    RoundTrip g w v (details.map Prod.fst) m (m₁.assign details []) m' := by
  have hrip : (m₁.assign details []).vmcs.read .guestRip = m.nextRip := by
    rw [read_incidental quiet (by decide), st.fields, if_pos rfl]
  have hnext := l.fields .guestRip
  rw [if_pos rfl, Machine.nextRip, hrip] at hnext
  refine
    { register := by rw [l.gprs, gpr_incidental quiet, st.gprs, if_pos rfl]
      cr3 := by rw [l.fields, if_neg (by decide), if_pos rfl]
      others := fun h hne => ?_
      saved := fun h hne => ?_
      rflags := ?_
      rip := hnext
      savedRip := ?_
      fields := fun f hcr3 hrip hstack hgiven => ?_ }
  · rw [l.gprs, gpr_incidental quiet, st.gprs, if_neg hne]
  · rw [l.saved, if_neg (by simp)]
    refine (st.saved _).trans ?_
    rw [if_neg (by simp), if_neg (by simpa using hne)]
  · rw [l.saved, if_neg (by decide)]
    refine (st.saved _).trans ?_
    rw [if_neg (by decide), if_neg (by simp)]
  · rw [l.saved, l.fields, if_pos rfl, if_pos rfl]
  · have hother : ¬ (g = Gpr.rsp ∧ f = .guestRsp) := fun h => hstack h.1 h.2
    rw [l.fields, if_neg hrip, if_neg hcr3]
    refine (Vmcs.read_foldl_write hgiven _).trans ?_
    rw [st.fields, if_neg hrip, if_neg hother]

end RoundTrip

variable [Inhabited σ]

/--
**A virtual CR3 is consistent.** Let reads of CR3 be mapped by `f` and writes by `g`, and let `f`
undo `g`. Then a load of CR3 from any register followed by a store to any register leaves in the
latter what the guest had in the former, while CR3 holds what `g` makes of it. If both functions
pass the value on as it is, a store followed by a load from the same register leaves CR3 as it was,
and the register equal to it.
-/
theorem cr3_round_trips (vm : Vm σ) (f g : UInt64 → UInt64) (s s' : Step σ)
    (details : List (Field × UInt64)) (reads : Maps f (vm.controlRegister.chains.get .readCr3))
    (writes : Maps g (vm.controlRegister.chains.get .writeCr3)) (undoes : ∀ v, f (g v) = v)
    (quiet : Incidental details) :
    let given := details.map Prod.fst
    let between := vm.after [s, .assign details []]
    let last := VmM.step s' between
    (∀ i j, Accesses vm s .writeCr3 i → Accesses between s' .readCr3 j →
      (VmM.step s vm).value = s.accepted ∧ last.value = s'.accepted
        ∧ RoundTrip j (vm.machine.gpr i) (g (vm.machine.gpr i)) given vm.machine between.machine
          last.vm.machine)
    ∧ ((∀ v, f v = v) → (∀ v, g v = v) →
      ∀ i, Accesses vm s .readCr3 i → Accesses between s' .writeCr3 i →
        (VmM.step s vm).value = s.accepted ∧ last.value = s'.accepted
          ∧ RoundTrip i (vm.machine.vmcs.read .guestCr3) (vm.machine.vmcs.read .guestCr3) given
            vm.machine between.machine last.vm.machine) := by
  intro given between last
  have hbetween : between.machine = (VmM.step s vm).vm.machine.assign details [] := rfl
  have hchains : between.controlRegister = (VmM.step s vm).vm.controlRegister := rfl
  constructor
  · intro i j hload hstore
    obtain ⟨haccepted, hloaded, hchain⟩ := loaded_step writes hload
    have hcr3 : between.machine.vmcs.read .guestCr3 = g (vm.machine.gpr i) := by
      rw [hbetween, read_incidental quiet (by decide), hloaded.fields, if_neg (by decide),
        if_pos rfl]
    have hreads : Maps f (between.controlRegister.chains.get .readCr3) := by
      rw [hchains, hchain]
      exact reads
    -- what is stored is what `f` makes of CR3, and CR3 is what `g` made of the source
    obtain ⟨haccepted', hstored, -⟩ := stored_step hreads hstore
    rw [hcr3, undoes] at hstored
    exact ⟨haccepted, haccepted', hloaded.stored quiet hstored⟩
  · intro hf hg i hstore hload
    obtain ⟨haccepted, hstored, hchain⟩ := stored_step reads hstore
    rw [hf] at hstored
    have hsource : between.machine.gpr i = vm.machine.vmcs.read .guestCr3 := by
      rw [hbetween, gpr_incidental quiet, hstored.gprs, if_pos rfl]
    have hwrites : Maps g (between.controlRegister.chains.get .writeCr3) := by
      rw [hchains, hchain]
      exact writes
    obtain ⟨haccepted', hloaded, -⟩ := loaded_step hwrites hload
    rw [hsource, hg] at hloaded
    exact ⟨haccepted, haccepted', hstored.loaded quiet hloaded⟩

/-- The guest loads CR3 from its stack pointer and stores it to RBX, by way of handlers that move it
up and down by a page, with a bystander on top of one of them and no valid length for the second
instruction. Then handlers that pass it on, and a store to the stack pointer first. -/
theorem cr3_round_trips_through_stack_pointer :
    let watcher := Script.accessHandler "watches" [] (.always false)
    let up : UInt64 → UInt64 := fun v => v + 0x1000
    let down : UInt64 → UInt64 := fun v => v - 0x1000
    let m : Machine :=
      { vmcs := (((((({} : Vmcs).write .exitReason 28).write .guestRsp 0x7000).write .guestCr3
          0x2000).write .guestRip 0x100).write .exitInstructionLength 3).write .exitQualification
          0x403 }
    let shifted : Vm Script.Tally := (Vm.create m).1.after
      [.addAccessHandler .readCr3 (.stateless (mapValue down)),
        .addAccessHandler .writeCr3 (.stateless (mapValue up)), .addAccessHandler .writeCr3 watcher]
    let plain : Vm Script.Tally := (Vm.create m).1.after
      [.addAccessHandler .readCr3 (.stateless (mapValue id)),
        .addAccessHandler .writeCr3 (.stateless (mapValue id)),
        .assign [(.exitQualification, 0x413)] []]
    let toRbx : List (Field × UInt64) := [(.exitQualification, 0x313), (.exitInstructionLength, 0)]
    let toCr3 : List (Field × UInt64) := [(.exitQualification, 0x403)]
    let later := shifted.after ([.resolve, .assign toRbx []] ++ [.exit])
    let later' := plain.after ([.handle .controlRegister, .assign toCr3 []] ++ [.resolve])
    Maps down (shifted.controlRegister.chains.get .readCr3)
      ∧ Maps up (shifted.controlRegister.chains.get .writeCr3) ∧ (∀ v, down (up v) = v)
      ∧ Incidental toRbx
      ∧ later.machine.gpr 3 = 0x7000 ∧ later.machine.vmcs.read .guestCr3 = 0x8000
      ∧ later.machine.gpr Gpr.rsp = 0x7000 ∧ later.machine.vmcs.read .guestRip = 0x104
      ∧ later'.machine.gpr Gpr.rsp = 0x2000 ∧ later'.machine.vmcs.read .guestCr3 = 0x2000 := by
  intro watcher up down m shifted plain toRbx toCr3 later later'
  have hwatcher : watcher.Bystander := ⟨fun _ _ _ => rfl, fun _ _ _ => rfl, fun _ _ _ => rfl⟩
  have reads : Maps down (shifted.controlRegister.chains.get .readCr3) := maps_mapValue down []
  have writes : Maps up (shifted.controlRegister.chains.get .writeCr3) :=
    (maps_mapValue up []).past hwatcher
  have undoes : ∀ v, down (up v) = v := fun v => UInt64.add_sub_cancel v 0x1000
  have quiet : Incidental toRbx := by decide
  have hload : Accesses shifted .resolve .writeCr3 Gpr.rsp := ⟨by decide, by decide⟩
  have hstore : Accesses (shifted.after [.resolve, .assign toRbx []]) .exit .readCr3 3 :=
    ⟨by decide, by decide⟩
  obtain ⟨-, -, trip⟩ := (cr3_round_trips shifted down up .resolve .exit toRbx reads writes undoes
    quiet).1 _ _ hload hstore
  have hstore' : Accesses plain (.handle .controlRegister) .readCr3 Gpr.rsp :=
    ⟨by decide, by decide⟩
  have hload' : Accesses (plain.after [.handle .controlRegister, .assign toCr3 []]) .resolve
      .writeCr3 Gpr.rsp := ⟨by decide, by decide⟩
  obtain ⟨-, -, trip'⟩ := (cr3_round_trips plain id id (.handle .controlRegister) .resolve toCr3
    (maps_mapValue id []) (maps_mapValue id []) (fun _ => rfl) (by decide)).2 (fun _ => rfl)
    (fun _ => rfl) _ hstore' hload'
  have hlater : later = (VmM.step .exit (shifted.after [.resolve, .assign toRbx []])).vm :=
    Vm.after_append ..
  have hlater' : later'
      = (VmM.step .resolve (plain.after [.handle .controlRegister, .assign toCr3 []])).vm :=
    Vm.after_append ..
  rw [hlater, hlater']
  refine ⟨reads, writes, undoes, quiet, trip.register.trans (by decide),
    trip.cr3.trans (by decide), (trip.others _ (by decide)).trans (by decide),
    trip.rip.trans (by decide), trip'.register.trans (by decide), trip'.cr3.trans (by decide)⟩

end GuestExit.ControlRegister
