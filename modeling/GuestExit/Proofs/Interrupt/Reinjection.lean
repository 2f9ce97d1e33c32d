import GuestExit.Proofs.Chain.Layers
import GuestExit.Proofs.Exit.Interruption
import GuestExit.Proofs.Interrupt.Vector
import GuestExit.Proofs.Vm.Life
import GuestExit.Script.Handler

/-!
# Interrupts that go back to the guest

An interrupt that exits has been acknowledged, so a handler has to take it on or it is
lost. The re-injection handler takes on all of them: once it is registered every
interrupt is claimed, whatever the handlers around it do. Those above it may take an
interrupt on themselves; those below it are never asked again.

The invariant is the shape of the chain, `Shielded`: newer handlers, the re-injection
handler, and the older ones exactly as they were when it was registered. It survives
everything that can happen to the virtualizer but its replacement.
`Returned` says what the shape means for a single interrupt, and
`reinjection_claims_every_interrupt` that it has this shape at every point of a run.
-/

namespace GuestExit

/-- The handler that an incident registers, if it does. -/
def Incident.registration? {η : Type} : Incident η → Option η
  | .registered h => some h
  | _ => none

namespace Interrupt

open ExitM

variable {σ : Type} [Inhabited σ]

/-- The handler that hands every vector back to the guest. -/
def reinjector : Handler σ Descriptor := .stateless reinject

/-! ## A single interrupt -/

section Dispatch

variable (newer older : Chain σ Descriptor) (info : Descriptor) (m : Machine)

/-- **The re-injection handler ends every dispatch.** If no handler above it claims, it writes the
vector they passed on into the field for the next entry, and nothing else. -/
theorem dispatch_reinjector :
    let d := newer.dispatch info m
    let o := Chain.dispatch (newer ++ reinjector :: older) info m
    o.value.claimed = true
      ∧ o.value.chain = d.value.chain ++ reinjector :: older
      ∧ (∀ c ∈ o.value.calls, older.length ≤ c.handler)
      ∧ changes o.effects = changes d.effects ++ if d.value.claimed then []
        else [.write .entryInterruption (0x80000000 ||| d.value.info.vector.toUInt64)] := by
  dsimp only
  rw [Chain.dispatch_append]
  dsimp only
  have hraised : ∀ c ∈ (newer.dispatch info m).value.calls.map
      (Call.raise (reinjector (σ := σ) :: older).length), older.length ≤ c.handler := by
    intro c hc
    obtain ⟨c', -, rfl⟩ := List.mem_map.mp hc
    show older.length ≤ c'.handler + (older.length + 1)
    omega
  cases hd : (newer.dispatch info m).value.claimed with
  | true => exact ⟨rfl, rfl, hraised, (List.append_nil _).symm⟩
  | false =>
    simp only [Bool.false_eq_true, if_false]
    rw [Chain.dispatch_cons]
    refine ⟨rfl, rfl, fun c hc => ?_, ?_⟩
    · rcases List.mem_append.mp hc with hc' | hc'
      · exact hraised c hc'
      · obtain rfl := List.mem_singleton.mp hc'
        exact Nat.le_refl _
    · rw [← Interruption.word_external, ← Interruption.pack_external]
      exact changes_append ..

end Dispatch

/--
What it means that an interrupt is in safe hands, if `newer` are the handlers above the
re-injection handler and `older` those below it. Nothing in it is left to the exit
information: the word in the field may describe any event, or none.
-/
structure Returned (newer older : Chain σ Descriptor) (m : Machine) (o : Outcome (Handled σ)) :
    Prop where
  /-- The interrupt is claimed. -/
  result : o.value.result = .ok true
  /-- The older handlers are not called, -/
  calls : ∀ c ∈ o.value.calls, older.length ≤ c.handler
  /-- and they stay what they were. -/
  handlers : o.value.virtualizer.handlers
    = (newer.dispatch (initial m) m).value.chain ++ reinjector :: older
  /-- What changes is what the newer handlers change and, if none of them claims, the event for the
  next entry. -/
  changes : changes o.effects = changes (newer.dispatch (initial m) m).effects
    ++ if (newer.dispatch (initial m) m).value.claimed then []
      else [.write .entryInterruption
        (0x80000000 ||| (newer.dispatch (initial m) m).value.info.vector.toUInt64)]
  /-- That event is the last field written. -/
  last : (newer.dispatch (initial m) m).value.claimed = false →
    (writes o.effects).getLast? = some (.entryInterruption,
      0x80000000 ||| (newer.dispatch (initial m) m).value.info.vector.toUInt64)
  /-- It is an external interrupt with the vector that the newer handlers passed on. -/
  event : Interruption.ofWord?
      (0x80000000 ||| (newer.dispatch (initial m) m).value.info.vector.toUInt64).toUInt32
    = some ⟨(newer.dispatch (initial m) m).value.info.vector, .externalInterrupt, false, false⟩
  /-- If none of them changed the vector, it is the low byte of the field as the exit found it. -/
  vector : (∀ c ∈ (newer.dispatch (initial m) m).value.calls, c.passed.vector = c.info.vector) →
    (newer.dispatch (initial m) m).value.info.vector = (m.vmcs.read .exitInterruption).toUInt8
  /-- The instruction pointer and the saved registers are as the newer handlers left them. -/
  rip : (m.perform o.effects).vmcs.read .guestRip
      = (m.perform (newer.dispatch (initial m) m).effects).vmcs.read .guestRip
    ∧ (m.perform o.effects).saved = (m.perform (newer.dispatch (initial m) m).effects).saved

namespace Virtualizer

/-- **With a re-injection handler in the chain every interrupt is in safe hands.** -/
theorem handle_returned {v : Virtualizer σ} {newer older : Chain σ Descriptor}
    (h : v.handlers = newer ++ reinjector :: older) (m : Machine) :
    Returned newer older m (v.handle m) := by
  have ha := v.handle_answers m
  obtain ⟨hclaimed, hchain, hcalls, hchanges⟩ := dispatch_reinjector newer older (initial m) m
  have hask : v.ask m = Chain.dispatch (newer ++ reinjector :: older) (initial m) m := by
    unfold ask
    rw [h]
  rw [← hask] at hclaimed hchain hcalls hchanges
  have hall := ha.changes.trans hchanges
  refine
    { result := by rw [ha.result, hclaimed]; rfl
      calls := by rw [ha.calls]; exact hcalls
      handlers := ha.handlers.trans hchain
      changes := hall
      last := fun hd => ?_
      event := ?_
      vector := fun hkept => ?_
      rip := ?_ }
  · rw [← writes_changes, hall, hd, writes_append]
    exact List.getLast?_concat
  · rw [← Interruption.word_external, UInt32.toUInt32_toUInt64]
    exact Interruption.ofWord?_word _
  · have ht := (Chain.traversal newer (initial m) m).handed
    exact ht.keeps Descriptor.vector hkept
  · rw [← Machine.perform_changes, hall, Machine.perform_append, Machine.perform_changes]
    split
    · exact ⟨rfl, rfl⟩
    · exact ⟨Vmcs.read_write_of_ne _ _ (by decide), rfl⟩

/-! ## The life of the virtualizer -/

/-- The handlers of a virtualizer some time after a re-injection handler was registered with it: on
top those registered since then, below that handler those from before, in their states of then. -/
structure Shielded (since : List (Handler σ Descriptor)) (older newer : Chain σ Descriptor)
    (v : Virtualizer σ) : Prop where
  handlers : v.handlers = newer ++ reinjector :: older
  registered : newer.map (·.react) = since.reverse.map (·.react)

/-- **Whatever happens to the virtualizer, it stays shielded**, unless it is replaced. -/
theorem Shielded.undergo {since : List (Handler σ Descriptor)} {older newer : Chain σ Descriptor}
    {v : Virtualizer σ} (h : Shielded since older newer v) {i : Incident (Handler σ Descriptor)}
    (kept : i ≠ .replaced) :
    ∃ newer', Shielded (since ++ i.registration?.toList) older newer' (v.undergo i) := by
  cases i with
  | registered handler =>
    refine ⟨handler :: newer, ⟨?_, ?_⟩⟩
    · show handler :: v.handlers = _
      rw [h.handlers, List.cons_append]
    · simp [Incident.registration?, h.registered]
  | switched on => exact ⟨newer, ⟨h.handlers, by simp [Incident.registration?, h.registered]⟩⟩
  | exited m =>
    refine ⟨(newer.dispatch (initial m) m).value.chain, ⟨?_, ?_⟩⟩
    · exact (handle_returned h.handlers m).handlers
    · rw [Chain.react_dispatch, h.registered]
      simp [Incident.registration?]
  | replaced => exact absurd rfl kept

/-- So it does over all of a life in its place. -/
theorem Shielded.foldl {since : List (Handler σ Descriptor)} {older newer : Chain σ Descriptor}
    {v : Virtualizer σ} (h : Shielded since older newer v)
    {is : List (Incident (Handler σ Descriptor))} (kept : .replaced ∉ is) :
    ∃ newer', Shielded (since ++ is.filterMap Incident.registration?) older newer'
      (is.foldl Virtualizer.undergo v) := by
  induction is generalizing since newer v with
  | nil => exact ⟨newer, by simpa using h⟩
  | cons i rest ih =>
    obtain ⟨newer', h'⟩ := h.undergo (i := i) fun e => kept (e ▸ List.mem_cons_self)
    obtain ⟨newer'', h''⟩ := ih h' fun e => kept (List.mem_cons_of_mem i e)
    refine ⟨newer'', ?_⟩
    rw [List.append_assoc] at h''
    cases hr : i.registration? <;> simpa [hr] using h''

end Virtualizer

/-- The virtualizer of a virtual CPU is shielded from when a re-injection handler is registered. -/
theorem shielded_after (vm : Vm σ) {steps : List (Step σ)}
    (kept : .replace .externalInterrupt ∉ steps) :
    let start := (VmM.step .addReinjection vm).vm
    ∃ newer, Virtualizer.Shielded
      ((interrupts.history start steps).filterMap Incident.registration?)
      vm.interrupt.handlers newer (start.after steps).interrupt := by
  intro start
  have hstart : Virtualizer.Shielded [] vm.interrupt.handlers [] start.interrupt := ⟨rfl, rfl⟩
  have hkept : .replaced ∉ interrupts.history start steps := interrupts.replaced_notMem_history kept
  obtain ⟨newer, h⟩ := hstart.foldl hkept
  refine ⟨newer, ?_⟩
  rw [List.nil_append] at h
  have hafter : (start.after steps).interrupt
      = (interrupts.history start steps).foldl Virtualizer.undergo start.interrupt :=
    interrupts.get_after start steps
  rw [hafter]
  exact h

/-- The interrupt handlers called in a step are those that the virtualizer of interrupts calls. -/
theorem mem_calls_step {vm : Vm σ} {s : Step σ} {c : Call σ Descriptor}
    (h : .interrupt c ∈ (VmM.step s vm).calls) :
    c ∈ (vm.interrupt.handle vm.machine).value.calls := by
  rw [VmM.calls_step] at h
  cases hs : vm.serves s with
  | none =>
    rw [Vm.service_of_unserved hs] at h
    exact absurd h List.not_mem_nil
  | some route =>
    rw [Vm.service_of_serves hs] at h
    cases route with
    | controlRegister =>
      obtain ⟨_, _, hc⟩ := List.mem_map.mp h
      exact absurd hc (by simp)
    | externalInterrupt =>
      obtain ⟨c', hc', he⟩ := List.mem_map.mp h
      exact Called.interrupt.inj he ▸ hc'

/--
**No interrupt is lost once a re-injection handler is registered**, whatever the
virtual CPU it is registered with and whatever happens to that afterwards, unless its
virtualizer of interrupts is replaced. The chain consists of the handlers registered
since, the re-injection handler and those from before, and every interrupt is in safe
hands. However it is taken, the answer is that it was accepted. The handlers from
before are not called any more; and if another re-injection handler is registered in the
run, all this holds of that one too, from there on.
-/
theorem reinjection_claims_every_interrupt (vm : Vm σ) (steps : List (Step σ))
    (kept : .replace .externalInterrupt ∉ steps) :
    let start := (VmM.step .addReinjection vm).vm
    let now := start.after steps
    let older := vm.interrupt.handlers
    (∃ newer : Chain σ Descriptor,
      now.interrupt.handlers = newer ++ reinjector :: older
        ∧ newer.map (·.react) = ((interrupts.history start steps).filterMap
          Incident.registration?).reverse.map (·.react)
        ∧ ∀ m, Returned newer older m (now.interrupt.handle m))
      ∧ (∀ s, now.serves s = some .externalInterrupt →
        (VmM.step s now).value = s.accepted
          ∧ changes (VmM.step s now).effects
            = changes (now.interrupt.handle now.machine).effects)
      ∧ ∀ t ∈ start.run steps, ∀ c, .interrupt c ∈ t.calls → older.length ≤ c.handler := by
  intro start now older
  obtain ⟨newer, hshape, hsince⟩ := shielded_after vm kept
  have hreturned := fun m => Virtualizer.handle_returned hshape m
  refine ⟨⟨newer, hshape, hsince, hreturned⟩, fun s hs => ?_, fun t ht c hc => ?_⟩
  · obtain ⟨hvalue, -, hchanges⟩ := VmM.step_of_claimed hs (hreturned now.machine).result
    exact ⟨hvalue, hchanges⟩
  -- the chain has its shape at every earlier point of the run as well
  · obtain ⟨before, s, later, rfl, rfl⟩ := Vm.mem_run ht
    have kept' : .replace .externalInterrupt ∉ before := fun h =>
      kept (List.mem_append_left _ h)
    obtain ⟨newer', hshape', -⟩ := shielded_after vm kept'
    exact (Virtualizer.handle_returned hshape' _).calls c (mem_calls_step hc)

/-- A word that describes no event, below a handler that declines after changing the vector and
above one that would claim: the guest gets the changed vector, and the handler below is not
asked. -/
theorem reinjection_claims_every_interrupt_undescribed :
    let m : Machine := { vmcs := (({} : Vmcs).write .exitReason 1).write .exitInterruption 0xC8 }
    let vm : Vm Script.Tally := (Vm.create m).1.after
      [.addInterruptHandler (Script.interruptHandler "accepts" [] (.always true))]
    let steps : List (Step Script.Tally) :=
      [.addInterruptHandler (Script.interruptHandler "renames" [.vector 0x40] (.always false))]
    let now := (VmM.step .addReinjection vm).vm.after steps
    .replace .externalInterrupt ∉ steps
      ∧ now.serves .resolve = some .externalInterrupt
      ∧ (VmM.step .resolve now).value = .flow .resume
      ∧ changes (VmM.step .resolve now).effects = [.write .entryInterruption 0x80000040]
      ∧ (now.interrupt.handle now.machine).value.calls.map (·.handler) = [2, 1] := by
  intro m vm steps now
  have kept : .replace .externalInterrupt ∉ steps := by simp [steps]
  have hserves : now.serves .resolve = some .externalInterrupt := by decide
  obtain ⟨-, haccepted, -⟩ := reinjection_claims_every_interrupt vm steps kept
  obtain ⟨hvalue, hchanges⟩ := haccepted .resolve hserves
  refine ⟨kept, hserves, hvalue, ?_, by decide⟩
  rw [hchanges]
  decide

end Interrupt

end GuestExit
