import GuestExit.Serial.Port

/-!
# Reading port traffic

The accesses to a serial port fall into writes that come by themselves and bytes
that were sent after reading the line status.
-/

namespace GuestExit.Serial

/-- A byte sent after waiting. -/
structure Sent where
  port : UInt16
  byte : UInt8
  /-- How often the status was read before. -/
  polls : Nat
  deriving DecidableEq, Repr

/-- The accesses to a port, sorted. -/
structure Traffic where
  /-- The writes that came by themselves. -/
  bare : List (UInt16 × UInt8) := []
  /-- The bytes sent after waiting. -/
  sent : List Sent := []
  deriving DecidableEq, Repr

/-- Sorts accesses, `polls` reads of the status having gone before. -/
def Traffic.sort (polls : Nat) : List PortAccess → Traffic
  | [] => {}
  | .read .. :: rest => sort (polls + 1) rest
  | .write port byte :: rest =>
    let t := sort 0 rest
    if polls = 0 then { t with bare := (port, byte) :: t.bare }
    else { t with sent := ⟨port, byte, polls⟩ :: t.sent }

/-- Sorts accesses. -/
def Traffic.ofAccesses (accesses : List PortAccess) : Traffic :=
  sort 0 accesses

end GuestExit.Serial
