import GuestExit.Proofs.Exit.Interruption

/-!
# The pending event

An event that is injected waits in two fields for the next entry: one describes it, the
other holds its error code. The two kinds of events do not write the same fields. An
interrupt has no error code and leaves that of an earlier fault where it is. What keeps the
guest from ever seeing the stale code is that the description says that none comes with
the event.

`Pending` is what can be said about the machine after some injections. It speaks of the
last event only, so it goes through sequences (`Pending.trans`): the later event replaces
the description of the earlier one whole.
-/

namespace GuestExit

/-- An event that can be injected. -/
inductive Event where
  | interrupt (vector : UInt8)
  | fault (code : UInt32)
  deriving DecidableEq, Repr

namespace Event

/-- Injects an event. -/
def inject : Event → ExitM Unit
  | interrupt vector => ExitM.injectInterrupt vector
  | fault code => ExitM.injectFault code

/-- How an event is described to the guest. -/
def description : Event → Interruption
  | interrupt vector =>
    { vector, kind := .externalInterrupt, hasErrorCode := false, nmiUnblocking := false }
  | fault _ =>
    { vector := 13, kind := .hardwareException, hasErrorCode := true, nmiUnblocking := false }

/-- The error code of an event, if it has one. -/
def code? : Event → Option UInt32
  | interrupt _ => none
  | fault code => some code

theorem read_inject (e : Event) (m : Machine) :
    (e.inject.final m).vmcs.read .entryInterruption = e.description.word.toUInt64 := by
  cases e with
  | interrupt vector =>
    rw [inject, ExitM.final, ExitM.effects_injectInterrupt]
    exact Vmcs.read_write_self ..
  | fault code =>
    rw [inject, ExitM.final, ExitM.effects_injectFault]
    exact Vmcs.read_write_self ..

theorem readCode_inject (e : Event) (m : Machine) :
    (e.inject.final m).vmcs.read .entryErrorCode
      = (e.code?.map UInt32.toUInt64).getD (m.vmcs.read .entryErrorCode) := by
  cases e with
  | interrupt vector => exact Vmcs.read_write_of_ne _ _ (by decide)
  | fault code => exact (Vmcs.read_write_of_ne _ _ (by decide)).trans (Vmcs.read_write_self ..)

end Event

/-- Injects events one after another. -/
def injectAll (events : List Event) : ExitM Unit :=
  events.forM Event.inject

theorem final_injectAll_cons (e : Event) (rest : List Event) (m : Machine) :
    (injectAll (e :: rest)).final m = (injectAll rest).final (e.inject.final m) :=
  ExitM.final_bind ..

/-- The machine `m` has become `m'` by injections, of which `e` was the last. -/
structure Pending (e : Event) (m m' : Machine) : Prop where
  /-- The description fits into 32 bits, -/
  width : (m'.vmcs.read .entryInterruption).toNat < UInt32.size
  /-- its reserved bits 12 to 30 are clear, -/
  reserved : bitField (m'.vmcs.read .entryInterruption).toNat 12 19 = 0
  /-- and it is that of the event. -/
  event : Interruption.ofWord? (m'.vmcs.read .entryInterruption).toUInt32 = some e.description
  /-- An error code is delivered exactly with a fault, -/
  delivers : bitField (m'.vmcs.read .entryInterruption).toNat 11 1 = 1 ↔ ∃ code, e = .fault code
  /-- and it is the one of that fault. -/
  code : ∀ code, e = .fault code → m'.vmcs.read .entryErrorCode = code.toUInt64
  /-- No other field has changed, -/
  fields : ∀ f, f ≠ .entryInterruption → f ≠ .entryErrorCode → m'.vmcs.read f = m.vmcs.read f
  /-- nor has any saved register. -/
  saved : m'.saved = m.saved

namespace Pending

/-- **One injection** makes the event the pending one. -/
theorem inject (e : Event) (m : Machine) : Pending e m (e.inject.final m) := by
  have hword := e.read_inject m
  have hnat : ((e.inject.final m).vmcs.read .entryInterruption).toNat
      = e.description.word.toNat := by
    rw [hword, UInt32.toNat_toUInt64]
  refine
    { width := ?_
      reserved := ?_
      event := ?_
      delivers := ?_
      code := fun code he => ?_
      fields := fun f hi hc => ?_
      saved := ?_ }
  · rw [hnat]
    exact e.description.word.toNat_lt
  · rw [hnat, Interruption.reserved_word]
    cases e <;> rfl
  · rw [hword, UInt32.toUInt32_toUInt64]
    exact Interruption.ofWord?_word _
  · rw [hnat, Interruption.errorCode_word]
    cases e <;> simp [Event.description]
  · rw [e.readCode_inject, he]
    rfl
  -- an interrupt writes one of the two fields, a fault writes both
  · cases e with
    | interrupt vector => exact Vmcs.read_write_of_ne _ _ hi
    | fault code => exact (Vmcs.read_write_of_ne _ _ hi).trans (Vmcs.read_write_of_ne _ _ hc)
  · cases e <;> rfl

theorem trans {e e' : Event} {m m' m'' : Machine} (h : Pending e m m') (h' : Pending e' m' m'') :
    Pending e' m m'' where
  width := h'.width
  reserved := h'.reserved
  event := h'.event
  delivers := h'.delivers
  code := h'.code
  fields f hi hc := (h'.fields f hi hc).trans (h.fields f hi hc)
  saved := h'.saved.trans h.saved

end Pending

/-- The error code that waits is that of the latest fault, even if an interrupt came after it. -/
theorem readCode_injectAll (events : List Event) (m : Machine) :
    ((injectAll events).final m).vmcs.read .entryErrorCode
      = ((events.filterMap Event.code?).getLast?.map UInt32.toUInt64).getD
        (m.vmcs.read .entryErrorCode) := by
  induction events generalizing m with
  | nil => rfl
  | cons e rest ih =>
    rw [final_injectAll_cons, ih, e.readCode_inject]
    cases e with
    | interrupt vector => rfl
    | fault code =>
      have hcodes : (Event.fault code :: rest).filterMap Event.code?
          = code :: rest.filterMap Event.code? := rfl
      rw [hcodes, List.getLast?_cons]
      cases (rest.filterMap Event.code?).getLast? <;> rfl

/--
**The event injected last is the one that is pending**, whatever was injected before it and
whatever the machine was like. The field of the error code is that of the latest fault, so after an
interrupt it can be a stale one; but then none is delivered.
-/
theorem last_injected_is_pending (m : Machine) (earlier : List Event) (last : Event) :
    Pending last m ((injectAll (earlier ++ [last])).final m)
      ∧ ((injectAll (earlier ++ [last])).final m).vmcs.read .entryErrorCode
        = (((earlier ++ [last]).filterMap Event.code?).getLast?.map UInt32.toUInt64).getD
          (m.vmcs.read .entryErrorCode) := by
  refine ⟨?_, readCode_injectAll _ m⟩
  induction earlier generalizing m with
  | nil =>
    rw [List.nil_append, final_injectAll_cons]
    exact .inject last m
  | cons e rest ih =>
    rw [List.cons_append, final_injectAll_cons]
    exact (Pending.inject e m).trans (ih _)

example :
    let m := (injectAll [.fault 0x18, .interrupt 34]).final {}
    m.vmcs.read .entryInterruption = 0x80000022 ∧ m.vmcs.read .entryErrorCode = 0x18 := by
  decide

end GuestExit
