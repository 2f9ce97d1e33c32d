/-!
# The serial port

A serial port is driven through a handful of I/O ports behind its base address. What
is done to it is data: a list of reads, with the answers they got, and writes. Seven
writes set a port up.
-/

namespace GuestExit.Serial

/-- A serial port of the machine. -/
inductive Port where
  | com1 | com2
  deriving DecidableEq, Repr

namespace Port

/-- The I/O port at which a serial port starts. -/
def base : Port → UInt16
  | com1 => 0x3F8
  | com2 => 0x2F8

/-- The I/O port of the line status. -/
def lineStatus (p : Port) : UInt16 := p.base + 5

end Port

/-- An access to an I/O port. -/
inductive PortAccess where
  /-- A byte is read. -/
  | read (port : UInt16) (answer : UInt8)
  /-- A byte is written. -/
  | write (port : UInt16) (byte : UInt8)
  deriving DecidableEq, Repr

/-- Sets a port up: no interrupts, 38400 baud, eight data bits, no parity, one stop bit, buffers on
and cleared, modem lines raised. -/
def setUp (p : Port) : List PortAccess :=
  [.write (p.base + 1) 0x00,
    .write (p.base + 3) 0x80,
    -- until the next write to the line control these two ports hold the divisor
    .write p.base 0x03,
    .write (p.base + 1) 0x00,
    .write (p.base + 3) 0x03,
    .write (p.base + 2) 0xC7,
    .write (p.base + 4) 0x0B]

end GuestExit.Serial
