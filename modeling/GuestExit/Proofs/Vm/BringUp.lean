import GuestExit.ControlRegister.Virtualizer
import GuestExit.Interrupt.Virtualizer

/-!
# Bringing a machine up

What is to exit is switched on by calls that are made one after the other, for each kind of exit by
itself. Two of them share a control field, and each goes on from the control structure that the one
before it left.

The order is of no account, because all calls treat a field in the same way. A mask or a shadow is
put in place as a whole, and by one kind of call only, so calls that ask for the same thing agree on
it. A control field only ever gains bits. No field is treated in both ways
(`not_control_of_mem_assigns`). So calls commute, and a call that is made again does nothing more:
the result depends on which calls are made, and on nothing else (`foldl_eq_of_same_members`).
-/

namespace GuestExit

/-! ## Steps that commute and need not be repeated -/

section Fold

variable {α β : Type} {act : β → α → β} {l l' : List α}

/-- What commutes with all steps can be done first as well as last. -/
theorem foldl_past {x : α} (comm : ∀ y ∈ l, ∀ z, act (act z x) y = act (act z y) x) (z : β) :
    act (l.foldl act z) x = l.foldl act (act z x) := by
  induction l generalizing z with
  | nil => rfl
  | cons y rest ih =>
    rw [List.foldl_cons, List.foldl_cons, comm y List.mem_cons_self,
      ih fun y hy => comm y (List.mem_cons_of_mem _ hy)]

/-- **What was done once is not changed by doing it again**, at any later time. -/
theorem foldl_absorb (comm : ∀ x ∈ l, ∀ y ∈ l, ∀ z, act (act z x) y = act (act z y) x)
    (idem : ∀ x ∈ l, ∀ z, act (act z x) x = act z x) {x : α} (hx : x ∈ l) (z : β) :
    act (l.foldl act z) x = l.foldl act z := by
  induction l generalizing z with
  | nil => exact absurd hx List.not_mem_nil
  | cons y rest ih =>
    rcases List.mem_cons.mp hx with rfl | hrest
    · have hpast : ∀ y ∈ rest, ∀ z, act (act z x) y = act (act z y) x := fun y hy =>
        comm x hx y (List.mem_cons_of_mem x hy)
      rw [List.foldl_cons, foldl_past hpast, idem x hx]
    · exact ih (fun a ha b hb => comm a (List.mem_cons_of_mem y ha) b (List.mem_cons_of_mem y hb))
        (fun a ha => idem a (List.mem_cons_of_mem y ha)) hrest _

theorem foldl_absorb_all (comm : ∀ x ∈ l, ∀ y ∈ l, ∀ z, act (act z x) y = act (act z y) x)
    (idem : ∀ x ∈ l, ∀ z, act (act z x) x = act z x) (h : ∀ x ∈ l', x ∈ l) (z : β) :
    l'.foldl act (l.foldl act z) = l.foldl act z := by
  induction l' with
  | nil => rfl
  | cons x rest ih =>
    rw [List.foldl_cons, foldl_absorb comm idem (h x List.mem_cons_self)]
    exact ih fun y hy => h y (List.mem_cons_of_mem x hy)

/-- **It only matters what is done**, not in which order and how often. -/
theorem foldl_eq_of_same_members
    (comm : ∀ x ∈ l, ∀ y ∈ l, ∀ z, act (act z x) y = act (act z y) x)
    (idem : ∀ x ∈ l, ∀ z, act (act z x) x = act z x) (same : ∀ x, x ∈ l' ↔ x ∈ l) (z : β) :
    l'.foldl act z = l.foldl act z := by
  have comm' : ∀ x ∈ l', ∀ y ∈ l', ∀ z, act (act z x) y = act (act z y) x := fun x hx y hy =>
    comm x ((same x).mp hx) y ((same y).mp hy)
  have idem' : ∀ x ∈ l', ∀ z, act (act z x) x = act z x := fun x hx => idem x ((same x).mp hx)
  have hboth : ∀ x ∈ l' ++ l, x ∈ l := fun x hx =>
    (List.mem_append.mp hx).elim (same x).mp id
  calc l'.foldl act z
      = l.foldl act (l'.foldl act z) :=
        (foldl_absorb_all comm' idem' (fun x hx => (same x).mpr hx) z).symm
    _ = (l' ++ l).foldl act z := List.foldl_append.symm
    _ = (l ++ l').foldl act z := List.perm_append_comm.foldl_eq'
        (fun x hx y hy => comm x (hboth x hx) y (hboth y hy)) z
    _ = l'.foldl act (l.foldl act z) := List.foldl_append
    _ = l.foldl act z := foldl_absorb_all comm idem (fun x hx => (same x).mp hx) z

end Fold

open ExitM ControlRegister Interrupt

/-- A call that makes something exit. -/
inductive BringUp where
  | cr0Writes (mask shadow : UInt64)
  | cr4Writes (mask shadow : UInt64)
  | cr3Reads
  | cr3Writes
  | interrupts
  deriving DecidableEq, Repr

/-- Setting bits of a field shows in that field only. -/
theorem ExitM.read_setBits (g : Field) (b : UInt64) (m : Machine) (f : Field) :
    ((setBits g b).final m).vmcs.read f
      = if f = g then m.vmcs.read f ||| b else m.vmcs.read f := by
  simp only [setBits, final_bind, final_read, value_read, final_write, Vmcs.read_write]
  split
  · next h => rw [h]
  · rfl

namespace BringUp

/-- What a call does. -/
def work : BringUp → ExitM Unit
  | cr0Writes mask shadow => trapCr0Writes mask shadow
  | cr4Writes mask shadow => trapCr4Writes mask shadow
  | cr3Reads => trapCr3Reads
  | cr3Writes => trapCr3Writes
  | interrupts => trapInterrupts

/-- What a list of calls does, one after the other. -/
def workAll : List BringUp → ExitM Unit
  | [] => pure ()
  | c :: rest => do
    c.work
    workAll rest

/-- Calls of the same kind ask for the same thing. -/
structure Consistent (calls : List BringUp) : Prop where
  cr0 : ∀ {mask shadow mask' shadow'}, cr0Writes mask shadow ∈ calls →
    cr0Writes mask' shadow' ∈ calls → mask = mask' ∧ shadow = shadow'
  cr4 : ∀ {mask shadow mask' shadow'}, cr4Writes mask shadow ∈ calls →
    cr4Writes mask' shadow' ∈ calls → mask = mask' ∧ shadow = shadow'

/-! ## One field -/

/-- The value that a call puts into a field, if it does not matter to it what was there before. -/
def put? : BringUp → Field → Option UInt64
  | cr0Writes mask shadow, f =>
    if f = .cr0Shadow then some shadow else if f = .cr0Mask then some mask else none
  | cr4Writes mask shadow, f =>
    if f = .cr4Shadow then some shadow else if f = .cr4Mask then some mask else none
  | _, _ => none

/-- The bits that a call sets in a field. -/
def bits : BringUp → Field → UInt64
  | cr3Reads, f => if f = .primaryControls then Control.cr3StoreExiting else 0
  | cr3Writes, f => if f = .primaryControls then Control.cr3LoadExiting else 0
  | interrupts, f =>
    if f = .exitControls then Control.acknowledgeInterruptOnExit
    else if f = .pinBasedControls then Control.externalInterruptExiting else 0
  | _, _ => 0

/-- What a call makes of the value of a field. -/
def update (f : Field) (v : UInt64) (c : BringUp) : UInt64 :=
  (c.put? f).getD v ||| c.bits f

/-- The fields that a call puts in place. -/
def assigns : BringUp → List Field
  | cr0Writes .. => [.cr0Mask, .cr0Shadow]
  | cr4Writes .. => [.cr4Mask, .cr4Shadow]
  | _ => []

/-- The control fields. -/
def controls : List Field := [.pinBasedControls, .primaryControls, .exitControls]

variable {c d : BringUp} {f : Field} {calls calls' : List BringUp} {v w : UInt64}

theorem put?_of_not_mem (h : f ∉ c.assigns) : c.put? f = none := by
  cases c with
  | cr0Writes | cr4Writes =>
    simp only [assigns, List.mem_cons, List.not_mem_nil, or_false, not_or] at h
    simp only [put?, if_neg h.1, if_neg h.2]
  | cr3Reads | cr3Writes | interrupts => rfl

theorem mem_assigns (h : c.put? f = some v) : f ∈ c.assigns := by
  by_cases hf : f ∈ c.assigns
  · exact hf
  · rw [put?_of_not_mem hf] at h
    exact absurd h (by simp)

theorem bits_of_not_control (h : f ∉ controls) : c.bits f = 0 := by
  simp only [controls, List.mem_cons, List.not_mem_nil, or_false, not_or] at h
  obtain ⟨hpin, hprimary, hexit⟩ := h
  cases c with
  | cr3Reads | cr3Writes => exact if_neg hprimary
  | interrupts => simp only [bits, if_neg hpin, if_neg hexit]
  | cr0Writes | cr4Writes => rfl

/-- **A call leaves each field as `update` says.** -/
theorem read_work (c : BringUp) (m : Machine) (f : Field) :
    (c.work.final m).vmcs.read f = update f (m.vmcs.read f) c := by
  cases c with
  | cr0Writes mask shadow =>
    simp only [work, trapCr0Writes, final_bind, final_write, final_report, Vmcs.read_write, update,
      put?, bits, UInt64.or_zero]
    split
    · rfl
    · split <;> rfl
  | cr4Writes mask shadow =>
    simp only [work, trapCr4Writes, final_bind, final_write, final_report, Vmcs.read_write, update,
      put?, bits, UInt64.or_zero]
    split
    · rfl
    · split <;> rfl
  | cr3Reads =>
    simp only [work, trapCr3Reads, final_bind, read_setBits, final_report, update, put?, bits]
    split <;> simp
  | cr3Writes =>
    simp only [work, trapCr3Writes, final_bind, read_setBits, final_report, update, put?, bits]
    split <;> simp
  | interrupts =>
    simp only [work, trapInterrupts, final_bind, read_setBits, final_report, update, put?, bits]
    by_cases hexit : f = .exitControls
    · have hne : f ≠ .pinBasedControls := by rw [hexit]; decide
      simp only [if_pos hexit, if_neg hne]
      rfl
    · simp only [if_neg hexit]
      split <;> simp

/-! ## Order and repetition -/

/-- **No field is both put in place and made to gain bits.** -/
theorem not_control_of_mem_assigns (h : f ∈ c.assigns) : f ∉ controls := by
  cases c with
  | cr0Writes | cr4Writes =>
    simp only [assigns, List.mem_cons, List.not_mem_nil, or_false] at h
    rcases h with rfl | rfl <;> decide
  | cr3Reads | cr3Writes | interrupts => exact absurd h List.not_mem_nil

theorem bits_of_put (h : c.put? f = some v) (d : BringUp) : d.bits f = 0 :=
  bits_of_not_control (not_control_of_mem_assigns (mem_assigns h))

theorem put?_of_control (h : f ∈ controls) (c : BringUp) : c.put? f = none :=
  put?_of_not_mem fun hf => not_control_of_mem_assigns hf h

/-- Consistent calls that put something into the same field put the same into it. -/
theorem Consistent.put?_eq (h : Consistent calls) (hc : c ∈ calls) (hd : d ∈ calls)
    (hv : c.put? f = some v) (hw : d.put? f = some w) : v = w := by
  have hcf := mem_assigns hv
  have hdf := mem_assigns hw
  -- calls of different kinds have no field in common, and those of the same kind are equal
  have hsame : c = d := by
    cases c <;> cases d <;>
      simp only [assigns, List.mem_cons, List.not_mem_nil, or_false] at hcf hdf
    · obtain ⟨rfl, rfl⟩ := h.cr0 hc hd
      rfl
    · rcases hcf with rfl | rfl <;> exact absurd hdf (by decide)
    · rcases hcf with rfl | rfl <;> exact absurd hdf (by decide)
    · obtain ⟨rfl, rfl⟩ := h.cr4 hc hd
      rfl
  rw [hsame, hw] at hv
  exact (Option.some.inj hv).symm

/-- **Consistent calls commute.** -/
theorem Consistent.update_comm (h : Consistent calls) (hc : c ∈ calls) (hd : d ∈ calls)
    (f : Field) (v : UInt64) : update f (update f v c) d = update f (update f v d) c := by
  unfold update
  cases hcput : c.put? f with
  | none =>
    cases hdput : d.put? f with
    | none =>
      show v ||| c.bits f ||| d.bits f = v ||| d.bits f ||| c.bits f
      rw [UInt64.or_assoc, UInt64.or_comm (c.bits f), ← UInt64.or_assoc]
    | some w =>
      rw [bits_of_put hdput c, bits_of_put hdput d]
      simp
  | some w =>
    rw [bits_of_put hcput c, bits_of_put hcput d]
    cases hdput : d.put? f with
    | none => simp
    | some w' => simp [h.put?_eq hc hd hcput hdput]

/-- A call made twice does what it does once. -/
theorem update_update (c : BringUp) (f : Field) (v : UInt64) :
    update f (update f v c) c = update f v c := by
  unfold update
  cases hput : c.put? f with
  | none =>
    show v ||| c.bits f ||| c.bits f = v ||| c.bits f
    rw [UInt64.or_assoc, UInt64.or_self]
  | some w => rfl

/-- What a list of calls makes of a field. -/
theorem read_workAll (calls : List BringUp) (m : Machine) (f : Field) :
    ((workAll calls).final m).vmcs.read f = calls.foldl (update f) (m.vmcs.read f) := by
  induction calls generalizing m with
  | nil => rfl
  | cons c rest ih =>
    rw [workAll, final_bind, ih, read_work]
    rfl

/-- **The result depends on which calls are made**, not on their order, and not on repetitions. -/
theorem Consistent.foldl_eq (h : Consistent calls) (same : ∀ c, c ∈ calls' ↔ c ∈ calls)
    (f : Field) (v : UInt64) : calls'.foldl (update f) v = calls.foldl (update f) v :=
  foldl_eq_of_same_members (fun _ hc _ hd => h.update_comm hc hd f)
    (fun c _ => c.update_update f) same v

/-! ## What is left alone -/

/-- A value is another one with some of the given bits set, and no bit cleared. -/
def OnlySets (set : List Nat) (v w : UInt64) : Prop :=
  ∀ i, (v.toNat.testBit i = true → w.toNat.testBit i = true)
    ∧ (i ∉ set → w.toNat.testBit i = v.toNat.testBit i)

theorem OnlySets.refl (set : List Nat) (v : UInt64) : OnlySets set v v :=
  fun _ => ⟨id, fun _ => rfl⟩

theorem OnlySets.trans {set : List Nat} {u : UInt64} (h : OnlySets set v w)
    (h' : OnlySets set w u) : OnlySets set v u := fun i =>
  ⟨(h' i).1 ∘ (h i).1, fun hi => ((h' i).2 hi).trans ((h i).2 hi)⟩

theorem onlySets_or {set : List Nat} {b : UInt64}
    (h : ∀ i ∉ set, b.toNat.testBit i = false) (v : UInt64) : OnlySets set v (v ||| b) := by
  intro i
  rw [UInt64.toNat_or, Nat.testBit_or]
  exact ⟨fun hv => by rw [hv, Bool.true_or], fun hi => by rw [h i hi, Bool.or_false]⟩

/-- The bits that calls set, by their fields. -/
def places : List (Field × Nat) :=
  [(.pinBasedControls, 0), (.primaryControls, 15), (.primaryControls, 16), (.exitControls, 15)]

/-- **Nothing is set but the bits of the controls.** -/
theorem mem_places {i : Nat} (h : (c.bits f).toNat.testBit i = true) : (f, i) ∈ places := by
  -- a control is a single bit
  have hcontrol : ∀ {n}, (1 <<< n).testBit i = true → i = n := by
    intro n hn
    rw [Nat.one_shiftLeft, Nat.testBit_two_pow] at hn
    exact (of_decide_eq_true hn).symm
  have hnone : ¬ (0 : UInt64).toNat.testBit i = true := by simp
  cases c with
  | cr0Writes | cr4Writes => exact absurd h hnone
  | cr3Reads =>
    simp only [bits] at h
    split at h
    · rw [hcontrol (n := 16) h, ‹f = _›]
      decide
    · exact absurd h hnone
  | cr3Writes =>
    simp only [bits] at h
    split at h
    · rw [hcontrol (n := 15) h, ‹f = _›]
      decide
    · exact absurd h hnone
  | interrupts =>
    simp only [bits] at h
    split at h
    · rw [hcontrol (n := 15) h, ‹f = _›]
      decide
    · split at h
      · rw [hcontrol (n := 0) h, ‹f = _›]
        decide
      · exact absurd h hnone

/-- A control field gains bits with each call, so it does with any number of them. -/
theorem onlySets_foldl {set : List Nat} (hf : f ∈ controls)
    (hset : ∀ p ∈ places, p.1 = f → p.2 ∈ set) (calls : List BringUp) (v : UInt64) :
    OnlySets set v (calls.foldl (update f) v) := by
  induction calls generalizing v with
  | nil => exact .refl set v
  | cons c rest ih =>
    have hstep : OnlySets set v (update f v c) := by
      unfold update
      rw [put?_of_control hf]
      refine onlySets_or (fun i hi => ?_) v
      exact Bool.eq_false_iff.mpr fun hbit => hi (hset _ (mem_places hbit) rfl)
    exact hstep.trans (ih _)

/-- The fields that calls write. -/
def written : List Field :=
  controls ++ [.cr0Mask, .cr4Mask, .cr0Shadow, .cr4Shadow]

theorem foldl_of_not_written (h : f ∉ written) (calls : List BringUp) (v : UInt64) :
    calls.foldl (update f) v = v := by
  have hcontrol : f ∉ controls := fun hf => h (List.mem_append_left _ hf)
  have hassigned : ∀ c : BringUp, f ∉ c.assigns := by
    intro c hf
    refine h (List.mem_append_right _ ?_)
    cases c with
    | cr0Writes | cr4Writes =>
      simp only [assigns, List.mem_cons, List.not_mem_nil, or_false] at hf
      rcases hf with rfl | rfl <;> decide
    | cr3Reads | cr3Writes | interrupts => exact absurd hf List.not_mem_nil
  induction calls generalizing v with
  | nil => rfl
  | cons c rest ih =>
    rw [List.foldl_cons, ih, update, put?_of_not_mem (hassigned c), bits_of_not_control hcontrol]
    exact UInt64.or_zero

/-! ## What takes effect -/

/-- What a call asks for is so. -/
def InEffect (s : Vmcs) : BringUp → Prop
  | cr0Writes mask shadow => s.read .cr0Mask = mask ∧ s.read .cr0Shadow = shadow
  | cr4Writes mask shadow => s.read .cr4Mask = mask ∧ s.read .cr4Shadow = shadow
  | cr3Reads => (s.read .primaryControls).toNat.testBit 16 = true
  | cr3Writes => (s.read .primaryControls).toNat.testBit 15 = true
  | interrupts => (s.read .pinBasedControls).toNat.testBit 0 = true
    ∧ (s.read .exitControls).toNat.testBit 15 = true

/-- A call is in effect if it would change nothing. -/
theorem inEffect_of_update {s : Vmcs} (h : ∀ f, update f (s.read f) c = s.read f) :
    InEffect s c := by
  have hassigned : ∀ {f v}, c.put? f = some v → s.read f = v := by
    intro f v hput
    have hf := h f
    rw [update, hput, bits_of_put hput] at hf
    exact hf.symm.trans UInt64.or_zero
  have hgained : ∀ {f i}, c.put? f = none → (c.bits f).toNat.testBit i = true →
      (s.read f).toNat.testBit i = true := by
    intro f i hput hbit
    have hf := h f
    rw [update, hput] at hf
    rw [← hf, UInt64.toNat_or, Nat.testBit_or, hbit, Bool.or_true]
  cases c with
  | cr0Writes mask shadow => exact ⟨hassigned rfl, hassigned rfl⟩
  | cr4Writes mask shadow => exact ⟨hassigned rfl, hassigned rfl⟩
  | cr3Reads => exact hgained rfl (by decide)
  | cr3Writes => exact hgained rfl (by decide)
  | interrupts => exact ⟨hgained rfl (by decide), hgained rfl (by decide)⟩

/--
**Bring-up order does not matter.** Calls of the same kind that ask for the same thing can be made
in any order and repeated at will: any other list of the same calls leaves each field of the control
structure with the same value, and every call in it in effect. Whatever is called, only three
control fields, two masks and two shadows can change; and in the control fields no bit is cleared,
and no bit but that of the control is set.
-/
theorem order_does_not_matter (calls : List BringUp) (m : Machine) :
    let s := ((workAll calls).final m).vmcs
    (Consistent calls →
        (∀ calls', (∀ c, c ∈ calls' ↔ c ∈ calls) →
          ∀ f, ((workAll calls').final m).vmcs.read f = s.read f)
        ∧ ∀ c ∈ calls, InEffect s c)
      ∧ (∀ f, f ∉ [Field.pinBasedControls, .primaryControls, .exitControls, .cr0Mask, .cr4Mask,
          .cr0Shadow, .cr4Shadow] → s.read f = m.vmcs.read f)
      ∧ OnlySets [0] (m.vmcs.read .pinBasedControls) (s.read .pinBasedControls)
      ∧ OnlySets [15, 16] (m.vmcs.read .primaryControls) (s.read .primaryControls)
      ∧ OnlySets [15] (m.vmcs.read .exitControls) (s.read .exitControls) := by
  intro s
  have hs : ∀ f, s.read f = calls.foldl (update f) (m.vmcs.read f) := read_workAll calls m
  refine ⟨fun consistent => ⟨fun calls' same f => ?_, fun c hc => ?_⟩, fun f hf => ?_, ?_, ?_, ?_⟩
  · rw [read_workAll, hs]
    exact consistent.foldl_eq same f _
  · refine inEffect_of_update fun f => ?_
    rw [hs]
    exact foldl_absorb (fun _ hc _ hd => consistent.update_comm hc hd f)
      (fun c _ => c.update_update f) hc _
  · rw [hs]
    exact foldl_of_not_written hf calls _
  · rw [hs]
    exact onlySets_foldl (by decide) (by decide) calls _
  · rw [hs]
    exact onlySets_foldl (by decide) (by decide) calls _
  · rw [hs]
    exact onlySets_foldl (by decide) (by decide) calls _

/-- The controls are switched on in another order, some of them twice, on a machine on which one
control is on already and another bit is set. -/
theorem order_does_not_matter_with_repetition :
    let m : Machine := { vmcs := ({} : Vmcs).write .primaryControls 0x10001 }
    let calls : List BringUp := [.cr3Reads, .cr0Writes 0x80000001 0x11, .interrupts, .cr3Writes]
    let calls' : List BringUp :=
      [.interrupts, .cr3Writes, .cr0Writes 0x80000001 0x11, .cr3Writes, .interrupts, .cr3Reads]
    Consistent calls
      ∧ (∀ c, c ∈ calls' ↔ c ∈ calls)
      ∧ (∀ f, ((workAll calls').final m).vmcs.read f = ((workAll calls).final m).vmcs.read f)
      ∧ InEffect ((workAll calls).final m).vmcs (.cr0Writes 0x80000001 0x11)
      ∧ ((workAll calls).final m).vmcs.read .primaryControls = 0x18001 := by
  intro m calls calls'
  have consistent : Consistent calls := by
    refine ⟨fun h h' => ?_, fun h _ => ?_⟩
    · simp only [calls, List.mem_cons, List.not_mem_nil, reduceCtorEq, cr0Writes.injEq, or_false,
        false_or] at h h'
      exact ⟨h.1.trans h'.1.symm, h.2.trans h'.2.symm⟩
    · exact absurd h (by simp [calls])
  have hleft : ∀ c ∈ calls', c ∈ calls := by decide
  have hright : ∀ c ∈ calls, c ∈ calls' := by decide
  have same : ∀ c, c ∈ calls' ↔ c ∈ calls := fun c => ⟨hleft c, hright c⟩
  obtain ⟨hconsistent, -⟩ := order_does_not_matter calls m
  obtain ⟨horder, heffect⟩ := hconsistent consistent
  exact ⟨consistent, same, horder calls' same, heffect _ (by decide), by decide⟩

end BringUp

end GuestExit
