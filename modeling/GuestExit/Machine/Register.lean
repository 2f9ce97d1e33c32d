/-!
# The saved guest registers

On every exit the guest's general-purpose registers, flags and instruction
pointer are saved, and they are loaded again on entry. Instructions and exit
qualifications name a general-purpose register by a number of which only the low
four bits count.

The saved stack and instruction pointers are copies: the processor takes the
guest's own from the VMCS.
-/

namespace GuestExit

/-- A general-purpose register by its architectural number, from RAX (0) to R15. -/
abbrev Gpr := Fin 16

namespace Gpr

/-- RSP, the one general-purpose register whose guest value lives in the VMCS. -/
def rsp : Gpr := 4

/-- The register an operand index names: only the low four bits count. -/
def ofIndex (index : UInt64) : Gpr :=
  ⟨index.toNat % 16, Nat.mod_lt _ (by decide)⟩

/-- The architectural name of a register. -/
def name (g : Gpr) : String :=
  #v["rax", "rcx", "rdx", "rbx", "rsp", "rbp", "rsi", "rdi",
    "r8", "r9", "r10", "r11", "r12", "r13", "r14", "r15"][g]

end Gpr

/-- One of the eighteen saved registers. -/
inductive Register where
  | gpr (g : Gpr)
  | rflags
  | rip
  deriving DecidableEq, Repr

namespace Register

/-- The architectural name of a register. -/
def name : Register → String
  | gpr g => g.name
  | rflags => "rflags"
  | rip => "rip"

/-- All saved registers, the general-purpose ones first. -/
def all : List Register :=
  (List.finRange 16).map gpr ++ [rflags, rip]

end Register

/-- The registers saved on an exit. -/
structure Registers where
  rax : UInt64 := 0
  rcx : UInt64 := 0
  rdx : UInt64 := 0
  rbx : UInt64 := 0
  /-- The saved copy, not the guest's own stack pointer. -/
  rsp : UInt64 := 0
  rbp : UInt64 := 0
  rsi : UInt64 := 0
  rdi : UInt64 := 0
  r8 : UInt64 := 0
  r9 : UInt64 := 0
  r10 : UInt64 := 0
  r11 : UInt64 := 0
  r12 : UInt64 := 0
  r13 : UInt64 := 0
  r14 : UInt64 := 0
  r15 : UInt64 := 0
  rflags : UInt64 := 0
  rip : UInt64 := 0
  deriving DecidableEq, Repr

namespace Registers

instance : Inhabited Registers := ⟨{}⟩

/-- The register that a number names. -/
def gpr (s : Registers) : Gpr → UInt64
  | 0 => s.rax
  | 1 => s.rcx
  | 2 => s.rdx
  | 3 => s.rbx
  | 4 => s.rsp
  | 5 => s.rbp
  | 6 => s.rsi
  | 7 => s.rdi
  | 8 => s.r8
  | 9 => s.r9
  | 10 => s.r10
  | 11 => s.r11
  | 12 => s.r12
  | 13 => s.r13
  | 14 => s.r14
  | _ => s.r15

/-- Changes the register that a number names. -/
def setGpr (s : Registers) (g : Gpr) (v : UInt64) : Registers :=
  match g with
  | 0 => { s with rax := v }
  | 1 => { s with rcx := v }
  | 2 => { s with rdx := v }
  | 3 => { s with rbx := v }
  | 4 => { s with rsp := v }
  | 5 => { s with rbp := v }
  | 6 => { s with rsi := v }
  | 7 => { s with rdi := v }
  | 8 => { s with r8 := v }
  | 9 => { s with r9 := v }
  | 10 => { s with r10 := v }
  | 11 => { s with r11 := v }
  | 12 => { s with r12 := v }
  | 13 => { s with r13 := v }
  | 14 => { s with r14 := v }
  | _ => { s with r15 := v }

/-- The general-purpose registers in the order of their numbers. -/
def gprs (s : Registers) : Vector UInt64 16 :=
  #v[s.rax, s.rcx, s.rdx, s.rbx, s.rsp, s.rbp, s.rsi, s.rdi,
    s.r8, s.r9, s.r10, s.r11, s.r12, s.r13, s.r14, s.r15]

/-- The saved value of a register. -/
def read (s : Registers) : Register → UInt64
  | .gpr g => s.gpr g
  | .rflags => s.rflags
  | .rip => s.rip

/-- Changes the saved value of a register. -/
def write (s : Registers) : Register → UInt64 → Registers
  | .gpr g, v => s.setGpr g v
  | .rflags, v => { s with rflags := v }
  | .rip, v => { s with rip := v }

/-- The saved register an operand index names. -/
def readIndex (s : Registers) (index : UInt64) : UInt64 :=
  s.read (.gpr (.ofIndex index))

/-- Changes the saved register an operand index names. -/
def writeIndex (s : Registers) (index value : UInt64) : Registers :=
  s.write (.gpr (.ofIndex index)) value

/-- The registers in which the given ones were written, in order. -/
def ofList (values : List (Register × UInt64)) : Registers :=
  values.foldl (fun s p => s.write p.1 p.2) {}

/-! ### The two tables

Reading and writing have a table each. Both are the same sixteen registers in a row. -/

theorem gpr_eq_getElem (s : Registers) (g : Gpr) : s.gpr g = s.gprs[g] := by
  revert g
  simp only [Fin.forall_fin_succ, Fin.forall_fin_zero, and_true]
  and_intros <;> rfl

theorem gprs_setGpr (s : Registers) (g : Gpr) (v : UInt64) :
    (s.setGpr g v).gprs = s.gprs.set g.val v g.isLt := by
  revert g
  simp only [Fin.forall_fin_succ, Fin.forall_fin_zero, and_true]
  and_intros <;> rfl

theorem rflags_setGpr (s : Registers) (g : Gpr) (v : UInt64) :
    (s.setGpr g v).rflags = s.rflags := by
  unfold setGpr
  split <;> rfl

theorem rip_setGpr (s : Registers) (g : Gpr) (v : UInt64) : (s.setGpr g v).rip = s.rip := by
  unfold setGpr
  split <;> rfl

/-- Nothing else is saved. -/
theorem ext_gprs {s t : Registers} (gprs : s.gprs = t.gprs) (rflags : s.rflags = t.rflags)
    (rip : s.rip = t.rip) : s = t := by
  cases s
  cases t
  simp_all [Registers.gprs]

theorem gpr_setGpr (s : Registers) (g h : Gpr) (v : UInt64) :
    (s.setGpr g v).gpr h = if h = g then v else s.gpr h := by
  rw [gpr_eq_getElem, gpr_eq_getElem, gprs_setGpr]
  simp [Vector.getElem_set, Fin.ext_iff, eq_comm]

/-- **A register reads as what was last written to it**, and no write touches another. -/
theorem read_write (s : Registers) (r q : Register) (v : UInt64) :
    (s.write r v).read q = if q = r then v else s.read q := by
  cases r with
  | gpr g => cases q <;> simp [read, write, gpr_setGpr, rflags_setGpr, rip_setGpr]
  | rflags | rip => cases q <;> rfl

@[simp] theorem read_write_self (s : Registers) (r : Register) (v : UInt64) :
    (s.write r v).read r = v := by
  simp [read_write]

theorem read_write_of_ne (s : Registers) {r q : Register} (v : UInt64) (h : q ≠ r) :
    (s.write r v).read q = s.read q := by
  simp [read_write, h]

end Registers

end GuestExit
