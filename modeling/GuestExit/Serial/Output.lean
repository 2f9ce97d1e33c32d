import GuestExit.Serial.Line

/-!
# Output on a serial port

What a logger wants done with its serial port, and the accesses that come of it. The
waits of a line are numbered through, over all the bytes that are ever sent.
-/

namespace GuestExit.Serial

/-- What is to be done with a serial port. -/
inductive Output where
  /-- Nothing. -/
  | idle
  /-- It is set up. -/
  | setUp (port : Port)
  /-- Bytes are sent. -/
  | send (port : Port) (bytes : List UInt8)
  deriving DecidableEq, Repr

namespace Output

/-- How often an output waits for the line. -/
def waits : Output → Nat
  | send _ bytes => bytes.length
  | _ => 0

/-- The accesses of an output, whose first wait has number `wait`. There are none to tell if a wait
does not end. -/
def accesses (line : LineStatus) (wait : Nat) : Output → Option (List PortAccess)
  | idle => some []
  | setUp port => some (Serial.setUp port)
  | send port bytes => Serial.send line port wait bytes

/-- The accesses of outputs in sequence, for each of them. -/
def accessesAll (line : LineStatus) (wait : Nat) : List Output → Option (List (List PortAccess))
  | [] => some []
  | o :: rest => do
    let first ← o.accesses line wait
    let others ← accessesAll line (wait + o.waits) rest
    return first :: others

end Output

end GuestExit.Serial
