import GuestExit.Log.Level
import GuestExit.Text.Sink

/-!
# Log records

A record is one line of the log as it leaves the processor: the number of the
virtual CPU it comes from, its level and its message. The number comes first so
that lines of different CPUs sharing one serial line can be told apart.
-/

namespace GuestExit

open Text (Writable Writing put putAll)

/-- One line of the log. -/
structure Record where
  /-- The virtual CPU that wrote it. -/
  vcpu : UInt32
  level : Level
  message : String
  deriving DecidableEq, Repr

namespace Record

/-- Writes a line of the log, `vcpu-<number> <LEVEL>: <message>`, with a message that comes in
pieces. -/
def writeLine {S : Type} [Writable S] (vcpu : UInt32) (level : Level) (message : List String) :
    Writing S Unit := do
  putAll ["vcpu-", toString vcpu.toNat, " ", level.name, ": "]
  putAll message
  put "\n"

/-- The pieces of a line whose message comes in pieces. -/
def linePieces (vcpu : UInt32) (level : Level) (message : List String) : List String :=
  ["vcpu-", toString vcpu.toNat, " ", level.name, ": "] ++ message ++ ["\n"]

/-- **Whatever it is written into, a line is handed over in its pieces**, in order. -/
theorem writeLine_eq {S : Type} [Writable S] (vcpu : UInt32) (level : Level)
    (message : List String) :
    (writeLine vcpu level message : Writing S Unit) = putAll (linePieces vcpu level message) := by
  have hfeed : (putAll ["\n"] : Writing S Unit) = put "\n" := bind_pure_unit
  simp only [writeLine, linePieces, Text.putAll_append, hfeed, bind_assoc]

/-- The pieces of a record, with its message in one. -/
def pieces (r : Record) : List String :=
  linePieces r.vcpu r.level [r.message]

/-- The whole text of a record. -/
def text (r : Record) : String :=
  String.join r.pieces

/-- Writes a record into a sink. -/
def writeTo (r : Record) (sink : Text.Sink) : Text.Delivery :=
  sink.deliver (writeLine r.vcpu r.level [r.message])

theorem writeTo_eq (r : Record) (sink : Text.Sink) : r.writeTo sink = sink.write r.pieces :=
  congrArg sink.deliver (writeLine_eq ..)

example : text ⟨2, .warn, "unclaimed"⟩ = "vcpu-2 WARN: unclaimed\n" := by decide

end Record

end GuestExit
