import GuestExit.Chain.Dispatch
import GuestExit.Machine.Injection
import GuestExit.Machine.Operand

/-!
# Bits and fields that are left alone

The fields of the control structure are independent of each other, and so are the bits of a
control field: what is written to one does not show in another. So to know that a field has kept
its value it is enough to know that nobody wrote it. `ExitM.Avoids f` says so of a piece of work,
on any machine, and goes through sequences; a handler or a chain avoids a field if all that it
ever does avoids it.
-/

namespace GuestExit

variable {σ ι α β : Type}

/-! ## Bits -/

section Bits

variable (v b : UInt64)

theorem or_and_self : (v ||| b) &&& b = b := by
  apply UInt64.eq_of_toBitVec_eq
  ext i hi
  simp only [UInt64.toBitVec_and, UInt64.toBitVec_or, BitVec.getElem_and, BitVec.getElem_or]
  cases v.toBitVec[i] <;> simp

theorem and_not_and_self : v &&& ~~~b &&& b = 0 := by
  rw [UInt64.and_assoc, UInt64.and_comm (~~~b), UInt64.and_not_self, UInt64.and_zero]

/-- Setting bits keeps the others, -/
theorem or_and_not : (v ||| b) &&& ~~~b = v &&& ~~~b := by
  apply UInt64.eq_of_toBitVec_eq
  ext i hi
  simp only [UInt64.toBitVec_and, UInt64.toBitVec_or, UInt64.toBitVec_not, BitVec.getElem_and,
    BitVec.getElem_or, BitVec.getElem_not]
  cases v.toBitVec[i] <;> simp

/-- and so does clearing them. -/
theorem and_not_and_not : v &&& ~~~b &&& ~~~b = v &&& ~~~b := by
  rw [UInt64.and_assoc, UInt64.and_self]

end Bits

/-! ## Fields -/

variable {f g : Field}

/-- Writing some fields leaves the others alone. -/
theorem Vmcs.read_foldl_write {fields : List (Field × UInt64)} (h : f ∉ fields.map Prod.fst)
    (s : Vmcs) : (fields.foldl (fun s p => s.write p.1 p.2) s).read f = s.read f := by
  induction fields generalizing s with
  | nil => rfl
  | cons p rest ih =>
    rw [List.map_cons, List.mem_cons, not_or] at h
    obtain ⟨hne, hrest⟩ := h
    rw [List.foldl_cons, ih hrest, Vmcs.read_write_of_ne _ _ hne]

theorem Machine.read_perform {effects : List Effect} (h : ∀ v, Effect.write f v ∉ effects)
    (m : Machine) : (m.perform effects).vmcs.read f = m.vmcs.read f := by
  induction effects generalizing m with
  | nil => rfl
  | cons e rest ih =>
    have hrest := ih fun v hv => h v (List.mem_cons_of_mem e hv)
    rw [perform_cons, hrest]
    cases e with
    | write g v =>
      have hne : f ≠ g := by
        rintro rfl
        exact h v List.mem_cons_self
      exact Vmcs.read_write_of_ne _ _ hne
    | save | report => rfl

/-- The same for a saved register. -/
theorem Machine.saved_perform {effects : List Effect} {r : Register}
    (h : ∀ v, Effect.save r v ∉ effects) (m : Machine) :
    (m.perform effects).saved.read r = m.saved.read r := by
  induction effects generalizing m with
  | nil => rfl
  | cons e rest ih =>
    have hrest := ih fun v hv => h v (List.mem_cons_of_mem e hv)
    rw [perform_cons, hrest]
    cases e with
    | save s v =>
      have hne : r ≠ s := by
        rintro rfl
        exact h v List.mem_cons_self
      exact Registers.read_write_of_ne _ _ hne
    | write | report => rfl

namespace ExitM

/-- Work that does not write a field, whatever machine it is done on. -/
def Avoids (f : Field) (x : ExitM α) : Prop :=
  ∀ m v, Effect.write f v ∉ (x m).effects

/-- **A field that is avoided keeps its value.** -/
theorem Avoids.read_final {x : ExitM α} (h : x.Avoids f) (m : Machine) :
    (x.final m).vmcs.read f = m.vmcs.read f :=
  Machine.read_perform (h m) m

theorem Avoids.bind {x : ExitM α} {k : α → ExitM β} (hx : x.Avoids f) (hk : ∀ a, (k a).Avoids f) :
    (x >>= k).Avoids f := by
  intro m v hv
  rw [effects_bind] at hv
  rcases List.mem_append.mp hv with hv' | hv'
  · exact hx m v hv'
  · exact hk _ _ v hv'

theorem avoids_of_effectless {x : ExitM α} (h : ∀ m, (x m).effects = []) : x.Avoids f := by
  intro m v hv
  rw [h] at hv
  exact List.not_mem_nil hv

theorem avoids_pure (a : α) : (pure a : ExitM α).Avoids f :=
  avoids_of_effectless fun _ => rfl

theorem avoids_read (g : Field) : (read g).Avoids f :=
  avoids_of_effectless fun _ => rfl

theorem avoids_report (n : Notice) : (report n).Avoids f := by
  simp [Avoids]

theorem avoids_save (r : Register) (w : UInt64) : (save r w).Avoids f := by
  simp [Avoids]

theorem avoids_write (h : f ≠ g) (w : UInt64) : (write g w).Avoids f := by
  simp [Avoids, h]

theorem avoids_setBits (h : f ≠ g) (bits : UInt64) : (setBits g bits).Avoids f :=
  (avoids_read g).bind fun _ => avoids_write h _

theorem avoids_clearBits (h : f ≠ g) (bits : UInt64) : (clearBits g bits).Avoids f :=
  (avoids_read g).bind fun _ => avoids_write h _

theorem avoids_writeGpr (h : f ≠ .guestRsp) (r : Gpr) (w : UInt64) : (writeGpr r w).Avoids f := by
  refine (avoids_save _ w).bind fun _ => ?_
  split
  · exact avoids_write h w
  · exact avoids_pure ()

theorem avoids_advanceRip (h : f ≠ .guestRip) : advanceRip.Avoids f := by
  refine (avoids_read _).bind fun length => (avoids_read _).bind fun old => ?_
  have hmove : ∀ new, (do save .rip new; write .guestRip new; report (.ripAdvanced old new)
      : ExitM Unit).Avoids f := fun new =>
    (avoids_save _ _).bind fun _ => (avoids_write h _).bind fun _ => avoids_report _
  split
  · exact hmove _
  · exact (avoids_report _).bind fun _ => hmove _

theorem avoids_injectInterrupt (h : f ≠ .entryInterruption) (vector : UInt8) :
    (injectInterrupt vector).Avoids f :=
  (avoids_report _).bind fun _ => avoids_write h _

theorem avoids_injectFault (hcode : f ≠ .entryErrorCode) (h : f ≠ .entryInterruption)
    (code : UInt32) : (injectFault code).Avoids f :=
  (avoids_report _).bind fun _ => (avoids_write hcode _).bind fun _ => avoids_write h _

end ExitM

/-! ## Handlers -/

/-- A handler that never writes a field. -/
def Handler.Avoids (f : Field) (h : Handler σ ι) : Prop :=
  ∀ s info, (h.react s info).Avoids f

theorem Handler.avoids_stateless [Inhabited σ] {react : ι → ExitM (ι × Bool)}
    (h : ∀ info, (react info).Avoids f) : (Handler.stateless (σ := σ) react).Avoids f :=
  fun _ info => (h info).bind fun _ => ExitM.avoids_pure _

/-- **What no handler writes is not written by a dispatch.** -/
theorem Chain.avoids_dispatch {chain : Chain σ ι} (h : ∀ handler ∈ chain, handler.Avoids f)
    (info : ι) : (chain.dispatch info).Avoids f := by
  induction chain generalizing info with
  | nil => exact ExitM.avoids_pure _
  | cons handler rest ih =>
    intro m v hv
    have hhandler := h handler List.mem_cons_self handler.state info m v
    rw [Chain.dispatch_cons] at hv
    dsimp only at hv
    split at hv
    · exact hhandler hv
    · rcases List.mem_append.mp hv with hv' | hv'
      · exact hhandler hv'
      · exact ih (fun h' hh' => h h' (List.mem_cons_of_mem handler hh')) _ _ v hv'

end GuestExit
