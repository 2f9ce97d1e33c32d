import GuestExit.Proofs.Vm.Comparison

/-!
# Stale copies never leak

A virtual CPU saves the guest's stack pointer, instruction pointer and flags on every exit, and
never looks at them again. Two virtual CPUs that differ in these copies alone are compared here
(`staleness`). Their handlers have to be blind, or they might tell the difference themselves; then
nothing that happens to the two ever differs, but that a handler finds on entry the copies that
there are (`Called.Alike`).

The one operand for which this could go wrong is RSP: it has a place among the saved registers like
any other, and only by its number is it known to live elsewhere.
-/

namespace GuestExit

open ControlRegister (Trap)

variable {σ : Type}

/-- The same handler of the same category was called, with the same result, but for stale copies on
entry. -/
inductive Called.Alike : Called σ → Called σ → Prop where
  | access {t : Trap} {c c' : Call σ ControlRegister.Descriptor} :
      c.Alike c' → Alike (.access t c) (.access t c')
  | interrupt {c c' : Call σ Interrupt.Descriptor} : c.Alike c' → Alike (.interrupt c) (.interrupt c')

theorem Called.alike_of {c : Category} {calls calls' : List (Call σ c.Info)}
    (h : List.Forall₂ Call.Alike calls calls') :
    List.Forall₂ Called.Alike (calls.map (.of c)) (calls'.map (.of c)) := by
  rw [List.forall₂_map_left_iff, List.forall₂_map_right_iff]
  refine h.imp fun _ _ halike => ?_
  cases c with
  | access t => exact .access halike
  | interrupt => exact .interrupt halike

/-- Two transitions that differ in nothing but stale copies. -/
structure Transition.SameButStale (t t' : Transition σ Answer) : Prop where
  /-- They have the same answer. -/
  value : t.value = t'.value
  /-- The same is done in the same order: fields written, registers saved, lines told. -/
  effects : t.effects = t'.effects
  /-- The same handlers are called, in the same states, and react the same. -/
  calls : List.Forall₂ Called.Alike t.calls t'.calls
  /-- The control structure and the other fifteen registers are the same afterwards, -/
  machine : t.vm.machine.Alike t'.vm.machine
  /-- and so is all that there is besides the machine: handlers, records, counters, routes. -/
  vm : t'.vm = { t.vm with machine := t'.vm.machine }

/-- Two virtual CPUs that differ in stale copies, with handlers that do not see them. -/
def staleness : Comparison σ where
  Machines := Machine.Alike
  Chains c chain chain' := chain = chain' ∧ ∀ h ∈ chain, h.Blind
  Deeds calls effects calls' effects' := effects = effects' ∧ List.Forall₂ Called.Alike calls calls'
  machine h := h
  perform h := h.perform
  told _ := ⟨rfl, .nil⟩
  append h h' := ⟨by rw [h.1, h'.1], List.rel_append h.2 h'.2⟩
  dispatch {c chain chain' m m'} info hchains hmachines := by
    obtain ⟨rfl, hblind⟩ := hchains
    obtain ⟨hchain, hinfo, hclaimed, heffects, hcalls⟩ := Chain.dispatch_alike hblind info hmachines
    have hstill := Chain.forall_of_react (P := fun react => ∀ s info, (react s info).Blind)
      (chain.react_dispatch info m) hblind
    refine ⟨hclaimed, hinfo, ⟨hchain, hstill⟩, ?_, heffects, Called.alike_of hcalls⟩
    rw [heffects]
    exact hmachines.perform _

/-- The four bits of the qualification that name the operand of a move. -/
theorem Qualification.gpr_decode {word : UInt64} {q : Qualification}
    (h : decode word = .ok q) : q.gpr = Gpr.ofIndex (word >>> 8) := by
  unfold decode at h
  dsimp only at h
  split at h
  · contradiction
  · obtain rfl := Except.ok.inj h
    apply Fin.ext
    simp [bitField, Gpr.ofIndex, UInt64.toNat_shiftRight]

theorem Gpr.ofIndex_eq_rsp {index : UInt64} (h : index.toNat % 16 = 4) : ofIndex index = rsp :=
  Fin.ext h

/-- What it means that an operand is taken from the control structure, where the guest's own is. -/
structure OnStack (g : Gpr) : Prop where
  /-- It is read there, -/
  read : ∀ m, (ExitM.readGpr g m).value = m.vmcs.read .guestRsp
  /-- and written there, after the saved copy. -/
  written : ∀ v m, (ExitM.writeGpr g v m).effects
    = [.save (.gpr Gpr.rsp) v, .write .guestRsp v]
  /-- A move to a control register starts from there, -/
  moved : ∀ t, t ≠ Trap.readCr3 → ∀ m, (t.defaults g m).value.value = m.vmcs.read .guestRsp
  /-- and a move from one ends there. -/
  received : ∀ info m, (Trap.readCr3.emulate g info m).effects
    = [.save (.gpr Gpr.rsp) info.value, .write .guestRsp info.value]

theorem onStack_rsp : OnStack Gpr.rsp where
  read _ := rfl
  written v m := ExitM.effects_writeGpr Gpr.rsp v m
  moved t ht m := by
    cases t with
    | readCr3 => exact absurd rfl ht
    | writeCr0 | writeCr3 | writeCr4 => rfl
  received info m := ExitM.effects_writeGpr Gpr.rsp info.value m

namespace Vm

variable [Inhabited σ]

theorem admits_of_blind {s : Step σ}
    (accesses : ∀ t h, s = .addAccessHandler t h → h.Blind)
    (interrupts : ∀ h, s = .addInterruptHandler h → h.Blind) : staleness.Admits s where
  registered c handler hs chain chain' h := by
    obtain ⟨rfl, hblind⟩ := h
    refine ⟨rfl, List.forall_mem_cons.mpr ⟨?_, hblind⟩⟩
    cases s with
    | addAccessHandler t added =>
      obtain ⟨rfl, e⟩ := Sigma.mk.inj (Option.some.inj hs)
      obtain rfl := eq_of_heq e
      exact accesses t added rfl
    | addInterruptHandler added =>
      obtain ⟨rfl, e⟩ := Sigma.mk.inj (Option.some.inj hs)
      obtain rfl := eq_of_heq e
      exact interrupts added rfl
    | addReinjection =>
      obtain ⟨rfl, e⟩ := Sigma.mk.inj (Option.some.inj hs)
      obtain rfl := eq_of_heq e
      exact Handler.blind_stateless Interrupt.blind_reinject
    | _ => exact absurd hs (by simp [Step.registered?])
  replaced c _ := ⟨rfl, fun _ h => absurd h List.not_mem_nil⟩

/--
**Stale copies never leak.** Take two virtual CPUs that differ in the saved stack pointer,
instruction pointer and flags and in nothing else, with handlers that do not see the difference,
and put them through the same steps, whatever these are. Step by step they give the same answers,
call the same handlers in the same states with the same results, and do the same in the same order:
the fields written, the registers saved, the lines told. All that they are is the same after every
step, but for these three copies.

It is RSP that is kept twice: an operand with its number, in all bits but four, is read and written
in the control structure.
-/
theorem stale_copies_never_leak {vm : Vm σ} {m : Machine} {steps : List (Step σ)}
    (alike : vm.machine.Alike m) (blind : ∀ c, ∀ h ∈ vm.chain c, h.Blind)
    (accesses : ∀ t h, .addAccessHandler t h ∈ steps → h.Blind)
    (interrupts : ∀ h, .addInterruptHandler h ∈ steps → h.Blind) :
    List.Forall₂ Transition.SameButStale (vm.run steps) (run { vm with machine := m } steps)
      ∧ (∀ index : UInt64, index.toNat % 16 = 4 → OnStack (Gpr.ofIndex index))
      ∧ ∀ word q, Qualification.decode word = .ok q → q.gpr = Gpr.ofIndex (word >>> 8) := by
  have hstart : staleness.Vms vm { vm with machine := m } :=
    { machine := alike
      chains := fun c => ⟨by cases c <;> rfl, blind c⟩
      log := rfl
      recording := rfl
      counts := rfl
      counting := rfl
      routes := rfl }
  have hadmits : ∀ s ∈ steps, staleness.Admits s := fun s hs =>
    admits_of_blind (fun t h e => accesses t h (e ▸ hs)) fun h e => interrupts h (e ▸ hs)
  refine ⟨(Comparison.run_alike hstart hadmits).1.imp fun t t' h => ?_, fun index hindex => ?_,
    fun word q => Qualification.gpr_decode⟩
  · refine ⟨h.value, h.deeds.1, h.deeds.2, h.vm.machine, Vm.ext_of_chain rfl (fun c => ?_)
      h.vm.log.symm h.vm.recording.symm h.vm.counts.symm h.vm.counting.symm h.vm.routes.symm⟩
    exact (h.vm.chains c).1.symm.trans (by cases c <;> rfl)
  · rw [Gpr.ofIndex_eq_rsp hindex]
    exact onStack_rsp

/-- RSP is written to CR0 by way of a handler that overwrites two saved registers, one of them
stale, and reads the operand itself. Neither the value nor where the guest goes on comes from a
saved copy. -/
theorem stale_copies_never_leak_overwritten :
    let vmcs := Vmcs.ofList [(.exitReason, 28), (.exitQualification, 0x400),
      (.exitInstructionLength, 3), (.guestRip, 0x1000), (.guestRsp, 0x7000)]
    let m : Machine := { vmcs, saved := Registers.ofList [(.gpr Gpr.rsp, 0x1), (.rip, 0x2)] }
    let m' : Machine := { vmcs, saved := Registers.ofList [(.gpr Gpr.rsp, 0xA), (.rflags, 0xB)] }
    let handler := Script.accessHandler "overwrites"
      [.machine (.save .rip 0x10), .machine (.writeGpr 1 0x20), .valueFromGpr Gpr.rsp] (.always true)
    let steps : List (Step Script.Tally) := [.addAccessHandler .writeCr0 handler, .resolve]
    let vm : Vm Script.Tally := (create m).1
    (m.Alike m' ∧ (∀ c, ∀ h ∈ vm.chain c, h.Blind)
        ∧ (∀ t h, .addAccessHandler t h ∈ steps → h.Blind)
        ∧ ∀ h, .addInterruptHandler h ∈ steps → h.Blind)
      ∧ List.Forall₂ Transition.SameButStale (vm.run steps) (run { vm with machine := m' } steps)
      ∧ OnStack (Gpr.ofIndex 0x14)
      ∧ (∃ q, Qualification.decode 0x400 = .ok q ∧ q.gpr = Gpr.ofIndex ((0x400 : UInt64) >>> 8))
      ∧ (vm.after steps).machine.vmcs.read .guestCr0 = 0x7000
      ∧ (vm.after steps).machine.vmcs.read .guestRip = 0x1003 := by
  intro vmcs m m' handler steps vm
  have alike : m.Alike m' := ⟨rfl, by decide⟩
  have blind : ∀ c, ∀ h ∈ vm.chain c, h.Blind := by
    intro c h hmem
    cases c with
    | interrupt => exact absurd hmem List.not_mem_nil
    | access t => cases t <;> exact absurd hmem List.not_mem_nil
  have accesses : ∀ t h, .addAccessHandler t h ∈ steps → h.Blind := by
    intro t h hmem
    obtain ⟨rfl, rfl⟩ : t = .writeCr0 ∧ h = handler := by simpa [steps] using hmem
    exact Script.blind_handler Script.AccessAction.blind_run _ _ _ _
  have interrupts : ∀ h, .addInterruptHandler h ∈ steps → h.Blind := by simp [steps]
  obtain ⟨hrun, hrsp, hgpr⟩ := stale_copies_never_leak alike blind accesses interrupts
  exact ⟨⟨alike, blind, accesses, interrupts⟩, hrun, hrsp 0x14 (by decide),
    ⟨_, rfl, hgpr 0x400 _ rfl⟩, by decide, by decide⟩

end Vm

end GuestExit
