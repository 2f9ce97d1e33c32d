/-!
# Control register accesses

An instruction that touches a control register can exit to the hypervisor. The
exit names the register and the way it was accessed; the two together are what
handlers are registered for and what messages mention.
-/

namespace GuestExit

/-- A control register an access can name. -/
inductive ControlReg where
  | cr0 | cr2 | cr3 | cr4 | cr8
  deriving DecidableEq, Repr

namespace ControlReg

/-- The number by which an exit names a control register. -/
def code : ControlReg → Nat
  | cr0 => 0
  | cr2 => 2
  | cr3 => 3
  | cr4 => 4
  | cr8 => 8

/-- The name of a control register in messages. -/
def name : ControlReg → String
  | cr0 => "Cr0"
  | cr2 => "Cr2"
  | cr3 => "Cr3"
  | cr4 => "Cr4"
  | cr8 => "Cr8"

/-- All control registers, by ascending number. -/
def all : List ControlReg := [cr0, cr2, cr3, cr4, cr8]

/-- The control register with the given number, if there is one. -/
def ofCode? (code : Nat) : Option ControlReg :=
  all.find? fun c => c.code = code

theorem ofCode?_eq_some_iff {n : Nat} {c : ControlReg} : ofCode? n = some c ↔ c.code = n := by
  constructor
  · intro h
    have := List.find?_some h
    simpa using this
  · rintro rfl
    cases c <;> rfl

end ControlReg

/-- How an instruction accesses a control register. -/
inductive AccessKind where
  /-- A general-purpose register is moved into it. -/
  | movToCr
  /-- It is moved into a general-purpose register. -/
  | movFromCr
  /-- The task-switched flag of CR0 is cleared. -/
  | clts
  /-- The low half of CR0 is loaded. -/
  | lmsw
  deriving DecidableEq, Repr

namespace AccessKind

/-- The number by which an exit names a kind of access. -/
def code : AccessKind → Nat
  | movToCr => 0
  | movFromCr => 1
  | clts => 2
  | lmsw => 3

/-- The name of a kind of access in messages. -/
def name : AccessKind → String
  | movToCr => "MovToCr"
  | movFromCr => "MovFromCr"
  | clts => "Clts"
  | lmsw => "Lmsw"

/-- All kinds of access, by ascending number. -/
def all : List AccessKind := [movToCr, movFromCr, clts, lmsw]

/-- The kind with the given number. Numbers are two bits wide, so 3 is the last. -/
def ofCode : Nat → AccessKind
  | 0 => movToCr
  | 1 => movFromCr
  | 2 => clts
  | _ => lmsw

@[simp] theorem ofCode_code (k : AccessKind) : ofCode k.code = k := by
  cases k <;> rfl

theorem code_ofCode {n : Nat} (h : n < 4) : (ofCode n).code = n := by
  match n, h with
  | 0, _ => rfl
  | 1, _ => rfl
  | 2, _ => rfl
  | 3, _ => rfl

end AccessKind

/-- A control register together with the way it was accessed. -/
structure Access where
  kind : AccessKind
  register : ControlReg
  deriving DecidableEq, Repr

namespace Access

/-- An access in messages: its kind, a space and its register. -/
def text (a : Access) : String :=
  a.kind.name ++ " " ++ a.register.name

end Access

end GuestExit
