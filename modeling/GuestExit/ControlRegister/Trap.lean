import GuestExit.Machine.Operand
import GuestExit.Exit.Access

/-!
# Trapped accesses

Of all control register accesses four can be handled: moves to CR0 and CR4, and
moves to and from CR3. Each of the four starts from a descriptor computed from the
machine, and each has an effect of its own once the access is allowed:

| trap      | value          | shadow     | effect                             |
|-----------|----------------|------------|------------------------------------|
| write CR0 | source operand | CR0 shadow | CR0 and its shadow are written     |
| read CR3  | guest CR3      | 0          | the destination operand is written |
| write CR3 | source operand | 0          | CR3 is written                     |
| write CR4 | source operand | CR4 shadow | CR4 and its shadow are written     |
-/

namespace GuestExit.ControlRegister

open ExitM

/-- What the handlers of an access decide about. -/
structure Descriptor where
  /-- The value moved. -/
  value : UInt64 := 0
  /-- What the guest is to read back, for CR0 and CR4. -/
  shadow : UInt64 := 0
  /-- Whether the value has been taken care of already. -/
  ignoreWrite : Bool := false
  /-- Whether the instruction pointer has been taken care of already. -/
  ignoreAdvance : Bool := false
  deriving DecidableEq, Repr, Inhabited

/-- An access that can be handled. -/
inductive Trap where
  | writeCr0 | readCr3 | writeCr3 | writeCr4
  deriving DecidableEq, Repr

namespace Trap

/-- The access that is trapped. -/
def access : Trap → Access
  | writeCr0 => ⟨.movToCr, .cr0⟩
  | readCr3 => ⟨.movFromCr, .cr3⟩
  | writeCr3 => ⟨.movToCr, .cr3⟩
  | writeCr4 => ⟨.movToCr, .cr4⟩

/-- The trap for an access, if it can be handled. -/
def ofAccess? : Access → Option Trap
  | ⟨.movToCr, .cr0⟩ => some writeCr0
  | ⟨.movFromCr, .cr3⟩ => some readCr3
  | ⟨.movToCr, .cr3⟩ => some writeCr3
  | ⟨.movToCr, .cr4⟩ => some writeCr4
  | _ => none

theorem ofAccess?_eq_some_iff {a : Access} {t : Trap} : ofAccess? a = some t ↔ t.access = a := by
  obtain ⟨kind, register⟩ := a
  cases kind <;> cases register <;> cases t <;> simp [ofAccess?, access]

/-- The descriptor an access starts from. -/
def defaults (trap : Trap) (gpr : Gpr) : ExitM Descriptor :=
  match trap with
  | writeCr0 => return { value := ← readGpr gpr, shadow := ← read .cr0Shadow }
  | readCr3 => return { value := ← read .guestCr3 }
  | writeCr3 => return { value := ← readGpr gpr }
  | writeCr4 => return { value := ← readGpr gpr, shadow := ← read .cr4Shadow }

/-- Moves the value where the access wants it. -/
def emulate (trap : Trap) (gpr : Gpr) (info : Descriptor) : ExitM Unit :=
  match trap with
  | writeCr0 => do
    write .guestCr0 info.value
    write .cr0Shadow info.shadow
  | readCr3 => writeGpr gpr info.value
  | writeCr3 => write .guestCr3 info.value
  | writeCr4 => do
    write .guestCr4 info.value
    write .cr4Shadow info.shadow

/-- Carries out an access that was allowed, as far as the handlers have not done so themselves. -/
def carryOut (trap : Trap) (gpr : Gpr) (info : Descriptor) : ExitM Unit := do
  unless info.ignoreWrite do
    trap.emulate gpr info
  unless info.ignoreAdvance do
    advanceRip

@[simp] theorem effects_defaults (t : Trap) (g : Gpr) (m : Machine) :
    (t.defaults g m).effects = [] := by
  cases t <;> rfl

@[simp] theorem final_defaults (t : Trap) (g : Gpr) (m : Machine) : (t.defaults g).final m = m := by
  simp [ExitM.final]

end Trap

/-- One thing for each trap. -/
structure PerTrap (α : Type) where
  writeCr0 : α
  readCr3 : α
  writeCr3 : α
  writeCr4 : α
  deriving DecidableEq, Repr

namespace PerTrap

variable {α : Type}

/-- The same thing for every trap. -/
def replicate (a : α) : PerTrap α := ⟨a, a, a, a⟩

/-- What a trap has. -/
def get (p : PerTrap α) : Trap → α
  | .writeCr0 => p.writeCr0
  | .readCr3 => p.readCr3
  | .writeCr3 => p.writeCr3
  | .writeCr4 => p.writeCr4

/-- Gives a trap another thing. -/
def set (p : PerTrap α) (t : Trap) (a : α) : PerTrap α :=
  match t with
  | .writeCr0 => { p with writeCr0 := a }
  | .readCr3 => { p with readCr3 := a }
  | .writeCr3 => { p with writeCr3 := a }
  | .writeCr4 => { p with writeCr4 := a }

theorem get_set (p : PerTrap α) (t u : Trap) (a : α) :
    (p.set t a).get u = if u = t then a else p.get u := by
  cases t <;> cases u <;> rfl

@[simp] theorem get_replicate (a : α) (t : Trap) : (replicate a).get t = a := by
  cases t <;> rfl

end PerTrap

end GuestExit.ControlRegister
