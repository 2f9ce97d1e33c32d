import GuestExit.ControlRegister.Trap
import GuestExit.Text.Numeral
import GuestExit.Text.Sink

/-!
# The log of control register exits

While logging is on, every handled access leaves a record of the value and the
shadow it ended with. There is one list of records for each of CR0, CR3 and CR4,
oldest first; reads and writes of CR3 share theirs. Records are only ever added.

Written out, the log has a title and one section for each register: a heading with
the number of records, then a line for each. All lines of records are equally long.
-/

namespace GuestExit.ControlRegister

open Text (Writable Writing putAll hexWordPieces)

/-- What an access ended with. -/
structure ExitRecord where
  value : UInt64
  shadow : UInt64
  deriving DecidableEq, Repr

namespace ExitRecord

/-- The record of an access that ended with the given descriptor. -/
def ofDescriptor (info : Descriptor) : ExitRecord :=
  ⟨info.value, info.shadow⟩

/-- The pieces of the line of a record. -/
def pieces (r : ExitRecord) : List String :=
  ["    value="] ++ hexWordPieces r.value.toNat ++ [" shadow="] ++ hexWordPieces r.shadow.toNat
    ++ ["\n"]

end ExitRecord

/-- The records of the accesses to each register. -/
structure ExitLog where
  cr0 : Array ExitRecord := #[]
  cr3 : Array ExitRecord := #[]
  cr4 : Array ExitRecord := #[]
  deriving DecidableEq, Repr, Inhabited

namespace ExitLog

/-- The records of the accesses to a register. There are none for CR2 and CR8. -/
def get (log : ExitLog) : ControlReg → Array ExitRecord
  | .cr0 => log.cr0
  | .cr3 => log.cr3
  | .cr4 => log.cr4
  | .cr2 | .cr8 => #[]

/-- Adds the record of an access behind the others to that register. -/
def push (log : ExitLog) (trap : Trap) (r : ExitRecord) : ExitLog :=
  match trap with
  | .writeCr0 => { log with cr0 := log.cr0.push r }
  | .readCr3 | .writeCr3 => { log with cr3 := log.cr3.push r }
  | .writeCr4 => { log with cr4 := log.cr4.push r }

theorem get_push (log : ExitLog) (t : Trap) (r : ExitRecord) (c : ControlReg) :
    (log.push t r).get c = if c = t.access.register then (log.get c).push r else log.get c := by
  cases t <;> cases c <;> rfl

/-- The registers that have records, with their names. -/
def named (log : ExitLog) : List (String × Array ExitRecord) :=
  [("CR0", log.cr0), ("CR3", log.cr3), ("CR4", log.cr4)]

/-- The pieces of the heading of a register. -/
def headingPieces (name : String) (records : Array ExitRecord) : List String :=
  ["  ", name, " (", toString records.size, " exits)\n"]

/-- Writes the log: its title, and for each register a heading and its records. -/
def write {S : Type} [Writable S] (log : ExitLog) : Writing S Unit := do
  putAll ["Control register exit log\n"]
  log.named.forM fun register => do
    putAll (headingPieces register.1 register.2)
    register.2.toList.forM fun r => putAll r.pieces

/-- The pieces of a heading and of the records under it. -/
def sectionPieces (name : String) (records : Array ExitRecord) : List String :=
  headingPieces name records ++ records.toList.flatMap ExitRecord.pieces

/-- The pieces of the log. -/
def pieces (log : ExitLog) : List String :=
  ["Control register exit log\n"]
    ++ log.named.flatMap fun register => sectionPieces register.1 register.2

/-- **Whatever it is written into, the log is handed over in its pieces**, in order. -/
theorem write_eq {S : Type} [Writable S] (log : ExitLog) :
    (log.write : Writing S Unit) = putAll log.pieces := by
  simp only [write, pieces, sectionPieces, Text.putAll_append, Text.putAll_flatMap]

/-- The whole text of the log. -/
def text (log : ExitLog) : String :=
  String.join log.pieces

/-- Writes the log into a sink. -/
def writeTo (log : ExitLog) (sink : Text.Sink) : Text.Delivery :=
  sink.deliver log.write

theorem writeTo_eq (log : ExitLog) (sink : Text.Sink) : log.writeTo sink = sink.write log.pieces :=
  congrArg sink.deliver log.write_eq

end ExitLog

end GuestExit.ControlRegister
