import GuestExit.Machine.Field

/-!
# The virtual-machine control structure

A VMCS holds a 64-bit value for every field. Only fields that were written are
stored, in ascending order of their encodings; every other field reads as zero.
`read_write` is all that the rest of the library needs to know.
-/

namespace GuestExit

/-- A control structure held in memory. -/
structure Vmcs where
  /-- The fields written so far with their values, ascending. -/
  entries : List (Field × UInt64) := []
  deriving DecidableEq, Repr, Inhabited

namespace Vmcs

/-- The first value stored for `field`, or zero. -/
def readIn (field : Field) : List (Field × UInt64) → UInt64
  | [] => 0
  | (f, v) :: rest => if f = field then v else readIn field rest

/-- Stores `value` for `field`, in place of an earlier value or where it belongs in the order. -/
def writeIn (field : Field) (value : UInt64) : List (Field × UInt64) → List (Field × UInt64)
  | [] => [(field, value)]
  | (f, v) :: rest =>
    if f = field then (field, value) :: rest
    else if field.encoding < f.encoding then (field, value) :: (f, v) :: rest
    else (f, v) :: writeIn field value rest

/-- The value of a field. -/
def read (s : Vmcs) (field : Field) : UInt64 :=
  readIn field s.entries

/-- Gives a field a value. -/
def write (s : Vmcs) (field : Field) (value : UInt64) : Vmcs :=
  ⟨writeIn field value s.entries⟩

/-- The control structure in which the given fields were written, in order. -/
def ofList (fields : List (Field × UInt64)) : Vmcs :=
  fields.foldl (fun s p => s.write p.1 p.2) {}

theorem readIn_writeIn (f g : Field) (v : UInt64) (l : List (Field × UInt64)) :
    readIn g (writeIn f v l) = if g = f then v else readIn g l := by
  induction l with
  | nil => simp only [writeIn, readIn, eq_comm]
  | cons p rest ih =>
    obtain ⟨h, w⟩ := p
    simp only [writeIn]
    split
    · next e => subst e; simp only [readIn, eq_comm]; split <;> simp_all
    · split
      · simp only [readIn, eq_comm]
      · simp only [readIn, ih]
        split
        · next e => subst e; simp_all
        · rfl

/-- **A field reads as what was last written to it**, whatever happened to other fields. -/
theorem read_write (s : Vmcs) (f g : Field) (v : UInt64) :
    (s.write f v).read g = if g = f then v else s.read g :=
  readIn_writeIn f g v s.entries

@[simp] theorem read_write_self (s : Vmcs) (f : Field) (v : UInt64) :
    (s.write f v).read f = v := by
  simp [read_write]

theorem read_write_of_ne (s : Vmcs) {f g : Field} (v : UInt64) (h : g ≠ f) :
    (s.write f v).read g = s.read g := by
  simp [read_write, h]

@[simp] theorem read_empty (g : Field) : ({} : Vmcs).read g = 0 := rfl

end Vmcs

end GuestExit
