import GuestExit.Proofs.Machine.Operands

/-!
# Registers by index

An instruction names its operand by an index of which only the low four bits count. Two register
files are read and written that way: the guest's own, whose stack pointer is a field of the control
structure, and the saved copy of it, whose stack pointer is one register among sixteen. In the copy
each register has a field of its own, and two tables say which field an index names, one to read by
and one to write by (`Registers.Tables`).

Both obey the laws of a register file (`RegisterFile`), and from these alone follows what many
writes leave behind (`RegisterFile.get_writeAll`). A write to the guest's own file is the same write
to the saved one, and more than that only for the stack pointer (`Machine.writesIndex`). So the two
files can differ there and nowhere else.
-/

namespace GuestExit

/-! ## The laws of a register file -/

section Laws

variable {S : Type} {get : S → UInt64 → UInt64} {set : S → UInt64 → UInt64 → S}

/-- Sixteen registers that are read and written by index. Indices that agree modulo 16 name the same
register. -/
structure RegisterFile (get : S → UInt64 → UInt64) (set : S → UInt64 → UInt64 → S) : Prop where
  /-- A register reads as what was last written to it, -/
  get_set : ∀ s v {i j}, i.toNat % 16 = j.toNat % 16 → get (set s i v) j = v
  /-- and a write does not show in any other. -/
  get_set_of_ne : ∀ s v {i j}, i.toNat % 16 ≠ j.toNat % 16 → get (set s i v) j = get s j
  /-- Of two writes to one register only the last leaves a trace, -/
  set_set : ∀ s v w {i j}, i.toNat % 16 = j.toNat % 16 → set (set s i v) j w = set s j w
  /-- and writes to different registers can be made in any order. -/
  set_comm : ∀ s v w {i j}, i.toNat % 16 ≠ j.toNat % 16 →
    set (set s i v) j w = set (set s j w) i v

theorem Gpr.ofIndex_eq_iff {i j : UInt64} : ofIndex i = ofIndex j ↔ i.toNat % 16 = j.toNat % 16 :=
  Fin.ext_iff

theorem Gpr.ofIndex_eq_rsp_iff {i : UInt64} : ofIndex i = rsp ↔ i.toNat % 16 = 4 :=
  Fin.ext_iff

/-- Registers that are told apart obey the laws when they are named by index. -/
theorem RegisterFile.of_gpr (get : S → Gpr → UInt64) (set : S → Gpr → UInt64 → S)
    (get_set : ∀ s g v h, get (set s g v) h = if h = g then v else get s h)
    (set_set : ∀ s g v w, set (set s g v) g w = set s g w)
    (set_comm : ∀ s v w {g h}, g ≠ h → set (set s g v) h w = set (set s h w) g v) :
    RegisterFile (fun s i => get s (.ofIndex i)) fun s i v => set s (.ofIndex i) v where
  get_set s v i j h := by rw [get_set, if_pos (Gpr.ofIndex_eq_iff.mpr h.symm)]
  get_set_of_ne s v i j h := by rw [get_set, if_neg fun e => h (Gpr.ofIndex_eq_iff.mp e).symm]
  set_set s v w i j h := by rw [Gpr.ofIndex_eq_iff.mpr h, set_set]
  set_comm s v w i j h := set_comm s v w fun e => h (Gpr.ofIndex_eq_iff.mp e)

/-- Writes by index, one after the other. -/
def writeAll (set : S → UInt64 → UInt64 → S) (s : S) (history : List (UInt64 × UInt64)) : S :=
  history.foldl (fun s p => set s p.1 p.2) s

/-- What was last written to the register that an index names, if anything was. -/
def lastWritten (index : UInt64) (history : List (UInt64 × UInt64)) : Option UInt64 :=
  (history.filter fun p => p.1.toNat % 16 = index.toNat % 16).getLast?.map Prod.snd

/-- A write counts until there is another one to the same register. -/
theorem lastWritten_cons_getD (i v j : UInt64) (rest : List (UInt64 × UInt64)) (old : UInt64) :
    (lastWritten j ((i, v) :: rest)).getD old
      = (lastWritten j rest).getD (if i.toNat % 16 = j.toNat % 16 then v else old) := by
  unfold lastWritten
  by_cases h : i.toNat % 16 = j.toNat % 16
  · rw [List.filter_cons_of_pos (by simpa using h), List.getLast?_cons, if_pos h]
    cases (rest.filter fun p => p.1.toNat % 16 = j.toNat % 16).getLast? <;> rfl
  · rw [List.filter_cons_of_neg (by simpa using h), if_neg h]

/-- **After any number of writes** a register has the last value that was written to it, and the one
it had before if there was none. -/
theorem RegisterFile.get_writeAll (h : RegisterFile get set) (s : S)
    (history : List (UInt64 × UInt64)) (j : UInt64) :
    get (writeAll set s history) j = (lastWritten j history).getD (get s j) := by
  induction history generalizing s with
  | nil => rfl
  | cons p rest ih =>
    obtain ⟨i, v⟩ := p
    rw [lastWritten_cons_getD]
    refine (ih (set s i v)).trans ?_
    by_cases hsame : i.toNat % 16 = j.toNat % 16
    · rw [h.get_set s v hsame, if_pos hsame]
    · rw [h.get_set_of_ne s v hsame, if_neg hsame]

end Laws

/-! ## The saved registers -/

namespace Registers

theorem write_write (s : Registers) (r : Register) (v w : UInt64) :
    (s.write r v).write r w = s.write r w := by
  cases r with
  | gpr g =>
    refine ext_gprs ?_ ?_ ?_
    · simp only [write, gprs_setGpr, Vector.set_set]
    · simp only [write, rflags_setGpr]
    · simp only [write, rip_setGpr]
  | rflags | rip => rfl

theorem write_gpr_comm (s : Registers) (v w : UInt64) {g h : Gpr} (hne : g ≠ h) :
    (s.write (.gpr g) v).write (.gpr h) w = (s.write (.gpr h) w).write (.gpr g) v := by
  have hval : g.val ≠ h.val := fun e => hne (Fin.ext e)
  refine ext_gprs ?_ ?_ ?_
  · simp only [write, gprs_setGpr, Vector.set_comm v w hval]
  · simp only [write, rflags_setGpr]
  · simp only [write, rip_setGpr]

theorem registerFile : RegisterFile readIndex writeIndex :=
  RegisterFile.of_gpr (fun (s : Registers) g => s.read (.gpr g)) (fun s g v => s.write (.gpr g) v)
    (fun s g v h => by simp only [read_write, Register.gpr.injEq])
    (fun s g v w => s.write_write (.gpr g) v w)
    (fun s v w _ _ hne => s.write_gpr_comm v w hne)

/-- **Both tables have the registers in their architectural order.** What the index `i` names is the
register with the number `i` modulo 16, when it is read and when it is written. -/
structure Tables (s : Registers) (i v : UInt64) : Prop where
  reads : s.gprs[i.toNat % 16]? = some (s.readIndex i)
  writes : (s.writeIndex i v).gprs = s.gprs.set (i.toNat % 16) v
  rflags : (s.writeIndex i v).rflags = s.rflags
  rip : (s.writeIndex i v).rip = s.rip

theorem tables (s : Registers) (i v : UInt64) : s.Tables i v where
  reads := by
    have hlt : i.toNat % 16 < 16 := Nat.mod_lt _ (by decide)
    rw [Vector.getElem?_eq_getElem hlt]
    exact congrArg some (s.gpr_eq_getElem (.ofIndex i)).symm
  writes := s.gprs_setGpr (.ofIndex i) v
  rflags := s.rflags_setGpr (.ofIndex i) v
  rip := s.rip_setGpr (.ofIndex i) v

end Registers

/-! ## The guest's registers -/

namespace Vmcs

theorem writeIn_writeIn (f : Field) (v w : UInt64) (l : List (Field × UInt64)) :
    writeIn f w (writeIn f v l) = writeIn f w l := by
  induction l with
  | nil => simp only [writeIn, if_pos]
  | cons p rest ih =>
    obtain ⟨g, u⟩ := p
    simp only [writeIn]
    by_cases hfound : g = f
    · simp only [if_pos hfound, writeIn, if_pos]
    · by_cases hpassed : f.encoding < g.encoding
      · simp only [if_neg hfound, if_pos hpassed, writeIn, if_pos]
      · simp only [if_neg hfound, if_neg hpassed, writeIn, ih]

/-- Of two writes to one field only the last leaves a trace. -/
theorem write_write (s : Vmcs) (f : Field) (v w : UInt64) :
    (s.write f v).write f w = s.write f w :=
  congrArg mk (writeIn_writeIn f v w s.entries)

end Vmcs

namespace ExitM

theorem final_writeGpr (g : Gpr) (v : UInt64) (m : Machine) :
    (writeGpr g v).final m
      = { vmcs := if g = Gpr.rsp then m.vmcs.write .guestRsp v else m.vmcs
          saved := m.saved.write (.gpr g) v } := by
  unfold final
  rw [effects_writeGpr]
  split <;> rfl

theorem writes_writeGpr (g : Gpr) (v : UInt64) (m : Machine) :
    writes (writeGpr g v m).effects = if g = Gpr.rsp then [(.guestRsp, v)] else [] := by
  rw [effects_writeGpr]
  split <;> rfl

theorem final_writeGpr_writeGpr (g : Gpr) (v w : UInt64) (m : Machine) :
    (writeGpr g w).final ((writeGpr g v).final m) = (writeGpr g w).final m := by
  simp only [final_writeGpr, Registers.write_write, Machine.mk.injEq, and_true]
  split
  · exact m.vmcs.write_write ..
  · rfl

theorem final_writeGpr_comm (v w : UInt64) (m : Machine) {g h : Gpr} (hne : g ≠ h) :
    (writeGpr h w).final ((writeGpr g v).final m)
      = (writeGpr g v).final ((writeGpr h w).final m) := by
  simp only [final_writeGpr, m.saved.write_gpr_comm v w hne, Machine.mk.injEq, and_true]
  -- at most one of the two is the stack pointer, so the control structure is written once at most
  by_cases hg : g = Gpr.rsp
  · have hh : h ≠ Gpr.rsp := fun e => hne (hg.trans e.symm)
    rw [if_neg hh, if_neg hh]
  · rw [if_neg hg, if_neg hg]

end ExitM

namespace Machine

open ExitM (readGpr writeGpr)

/-- The guest's register that an operand index names. -/
def readIndex (m : Machine) (index : UInt64) : UInt64 :=
  (readGpr (.ofIndex index) m).value

/-- The machine with a new value in the guest's register that an operand index names. -/
def writeIndex (m : Machine) (index value : UInt64) : Machine :=
  (writeGpr (.ofIndex index) value).final m

theorem registerFile : RegisterFile readIndex writeIndex :=
  RegisterFile.of_gpr (fun m g => (readGpr g m).value) (fun m g v => (writeGpr g v).final m)
    (fun m g v h => ExitM.gpr_writeGpr g v m h)
    (fun m g v w => ExitM.final_writeGpr_writeGpr g v w m)
    (fun m v w _ _ hne => ExitM.final_writeGpr_comm v w m hne)

theorem writeIndex_eq (m : Machine) (i v : UInt64) :
    m.writeIndex i v
      = { vmcs := if i.toNat % 16 = 4 then m.vmcs.write .guestRsp v else m.vmcs
          saved := m.saved.writeIndex i v } := by
  unfold writeIndex
  simp only [ExitM.final_writeGpr, Gpr.ofIndex_eq_rsp_iff]
  rfl

/-- **The two files differ in the stack pointer only**, which the guest has in the control
structure. -/
theorem readIndex_eq (m : Machine) (j : UInt64) :
    m.readIndex j
      = if j.toNat % 16 = 4 then m.vmcs.read .guestRsp else m.saved.readIndex j := by
  unfold readIndex
  simp only [ExitM.value_readGpr, gpr, Gpr.ofIndex_eq_rsp_iff]
  rfl

/-- The saved file goes through the same writes as the guest's own. -/
theorem saved_writeAll (m : Machine) (history : List (UInt64 × UInt64)) :
    (writeAll writeIndex m history).saved = writeAll Registers.writeIndex m.saved history := by
  induction history generalizing m with
  | nil => rfl
  | cons p rest ih =>
    have hstep : (m.writeIndex p.1 p.2).saved = m.saved.writeIndex p.1 p.2 := by
      rw [writeIndex_eq]
    exact (ih _).trans (by rw [hstep]; rfl)

/-- All that a write of `v` to the register that the index `i` names does to a machine. -/
structure WritesIndex (m : Machine) (i v : UInt64) : Prop where
  /-- The saved register is changed, -/
  slot : (m.writeIndex i v).saved.read (.gpr (.ofIndex i)) = v
  /-- and no other one is: not the flags, and not the instruction pointer. -/
  others : ∀ r, r ≠ .gpr (.ofIndex i) → (m.writeIndex i v).saved.read r = m.saved.read r
  /-- The control structure is written for the stack pointer only: one field, with this value. -/
  written : ∀ f w, (f, w) ∈ writes (writeGpr (.ofIndex i) v m).effects
    ↔ i.toNat % 16 = 4 ∧ f = .guestRsp ∧ w = v
  /-- Then the stack pointer has the new value in both places. -/
  stack : i.toNat % 16 = 4 →
    (m.writeIndex i v).vmcs.read .guestRsp = v ∧ (m.writeIndex i v).saved.read (.gpr Gpr.rsp) = v
  /-- No other field changes, -/
  fields : ∀ f, f ≠ .guestRsp → (m.writeIndex i v).vmcs.read f = m.vmcs.read f
  /-- and for another register none at all. -/
  vmcs : i.toNat % 16 ≠ 4 → (m.writeIndex i v).vmcs = m.vmcs

theorem writesIndex (m : Machine) (i v : UInt64) : m.WritesIndex i v where
  slot := by
    rw [writeIndex_eq]
    exact m.saved.read_write_self (.gpr (.ofIndex i)) v
  others r hr := by
    rw [writeIndex_eq]
    exact Registers.read_write_of_ne _ _ hr
  written f w := by
    simp only [ExitM.writes_writeGpr, Gpr.ofIndex_eq_rsp_iff]
    split
    · next hstack => simp [hstack]
    · next hother => simp [hother]
  stack hstack := by
    rw [writeIndex_eq, if_pos hstack, ← Gpr.ofIndex_eq_rsp_iff.mpr hstack]
    exact ⟨m.vmcs.read_write_self .guestRsp v, m.saved.read_write_self (.gpr (.ofIndex i)) v⟩
  fields f hf := by
    rw [writeIndex_eq]
    split
    · exact Vmcs.read_write_of_ne _ _ hf
    · rfl
  vmcs hother := by rw [writeIndex_eq, if_neg hother]

end Machine

/--
**Registers read as they were written**, by all indices and after any writes, in the guest's own
file as well as in the saved one. Both obey the same laws, and both end up with what was last
written to a register. What a write does to the machine is known in full: one saved register, and
for the stack pointer the field of the control structure that holds it. In every other register the
two files agree, whatever happened before. Behind the laws of the saved file stand two tables, one
to read by and one to write by, which name the same sixteen registers in the same order.
-/
theorem registers_read_as_written (m : Machine) (i v j : UInt64)
    (history : List (UInt64 × UInt64)) :
    RegisterFile Machine.readIndex Machine.writeIndex
      ∧ RegisterFile Registers.readIndex Registers.writeIndex
      ∧ m.WritesIndex i v
      ∧ (writeAll Machine.writeIndex m history).readIndex j
          = (lastWritten j history).getD (m.readIndex j)
      ∧ (writeAll Machine.writeIndex m history).saved
          = writeAll Registers.writeIndex m.saved history
      ∧ (writeAll Registers.writeIndex m.saved history).readIndex j
          = (lastWritten j history).getD (m.saved.readIndex j)
      ∧ m.readIndex j
          = (if j.toNat % 16 = 4 then m.vmcs.read .guestRsp else m.saved.readIndex j)
      ∧ m.saved.Tables i v :=
  ⟨Machine.registerFile, Registers.registerFile, m.writesIndex i v,
    Machine.registerFile.get_writeAll m history j, m.saved_writeAll history,
    Registers.registerFile.get_writeAll m.saved history j, m.readIndex_eq j, m.saved.tables i v⟩

/-- The stack pointer is written under two of its indices, and RBX in between. The guest's own was
not the saved one before. -/
theorem registers_read_as_written_stack_pointer :
    let m : Machine :=
      { vmcs := .ofList [(.guestRsp, 0x7000)], saved := .ofList [(.gpr Gpr.rsp, 0x1)] }
    let history : List (UInt64 × UInt64) :=
      [(0x4, 0x10), (0x13, 0x20), (0xfffffffffffffff4, 0x30)]
    (m.readIndex 0x24 = 0x7000 ∧ m.saved.readIndex 0x24 = 0x1)
      ∧ (writeAll Machine.writeIndex m history).readIndex 0x24 = 0x30
      ∧ (writeAll Machine.writeIndex m history).readIndex 0x3 = 0x20
      ∧ (m.writeIndex 0x14 0x10).writeIndex 0x4 0x30 = m.writeIndex 0x4 0x30
      ∧ (m.writeIndex 0x14 0x10).writeIndex 0x3 0x20 = (m.writeIndex 0x3 0x20).writeIndex 0x14 0x10
      ∧ (m.writeIndex 0x14 0x10).vmcs.read .guestRsp = 0x10
      ∧ (m.writeIndex 0x13 0x20).vmcs = m.vmcs
      ∧ (m.saved.writeIndex 0x13 0x20).gprs = m.saved.gprs.set 3 0x20 := by
  intro m history
  obtain ⟨hfile, -, hstack, hrun, -, -, hsplit, -⟩ :=
    registers_read_as_written m 0x14 0x10 0x24 history
  obtain ⟨-, -, hother, hrun', -, -, -, htables⟩ :=
    registers_read_as_written m 0x13 0x20 0x3 history
  exact ⟨⟨hsplit, rfl⟩, hrun, hrun', hfile.set_set m 0x10 0x30 (by decide),
    hfile.set_comm m 0x10 0x20 (by decide), (hstack.stack (by decide)).1, hother.vmcs (by decide),
    htables.writes⟩

end GuestExit
