import GuestExit.Log.Record
import GuestExit.Serial.Encoding
import GuestExit.Serial.Library
import GuestExit.Serial.Output

/-!
# The log facade

Log lines go through a facade that drops those above its level and hands the others
to the logger that is installed. One of the loggers that can be installed writes to a
serial port. It is made when the facade is first initialised, for the port given
then, and asks to be installed as soon as it is made. If a foreign logger is installed
already, that is not an error: the port is set up all the same, and the lines go where
they went before. Every later initialisation only changes the level.

The serial logger checks the level again, so it is safe to call directly. What a
foreign logger does with a line is its own matter, and so is which levels it says it
takes.

What happens on the serial port is left open here: a use says what it wants done,
and whether and how the line lets it is the matter of `Output.accesses`.
-/

namespace GuestExit.Serial

variable {G : Type} {C : Type → Type}

/-- The state of the log facade. -/
structure Facade (G : Type) (C : Type → Type) where
  /-- Where the serial logger is kept. -/
  cell : C SerialLogger
  registry : G

/-- A use of the log facade. -/
inductive Use where
  /-- The facade is initialised. -/
  | init (port : Port) (level : Filter)
  /-- Another logger asks to be installed. -/
  | installForeign (name : Nat)
  /-- A line is logged. -/
  | log (level : Level) (message : String)
  /-- A line is handed to the installed logger without asking the facade. -/
  | logDirect (level : Level) (message : String)
  /-- The installed logger is asked whether it takes lines of a level. -/
  | enabled (level : Level)
  /-- The facade is asked for its level. -/
  | maxLevel
  /-- The installed logger is asked to write out what it holds back, which is nothing. -/
  | flush
  deriving DecidableEq, Repr

/-- What a use answers. -/
inductive Reply where
  | done
  | yesNo (answer : Bool)
  | filter (level : Filter)
  deriving DecidableEq, Repr

/-- A line that was handed to a foreign logger. -/
structure Handed where
  /-- The logger. -/
  name : Nat
  level : Level
  message : String
  deriving DecidableEq, Repr

/-- What a use of the facade does. -/
structure Used (G : Type) (C : Type → Type) where
  facade : Facade G C
  reply : Reply := .done
  /-- What is to be done with the serial port. -/
  output : Output := .idle
  /-- The lines that foreign loggers were given. -/
  foreign : List Handed := []

/-! ## The serial logger -/

/-- What is known of the making of a serial logger. -/
structure Making where
  /-- Whether it was made. -/
  made : Bool := false
  output : Output := .idle
  deriving DecidableEq, Repr

namespace SerialLogger

/-- Makes a serial logger, and sets its port up. -/
def make (port : Port) : StateM Making SerialLogger := do
  set { made := true, output := .setUp port : Making }
  return ⟨port⟩

variable [Registry G]

/-- Whether the serial logger takes lines of a level. -/
def enabled (g : G) (level : Level) : Bool :=
  (Registry.maxLevel g).admits level

/-- Writes a line to the port, if the logger takes lines of that level. -/
def log (vcpu : UInt32) (l : SerialLogger) (g : G) (level : Level) (message : String) : Output :=
  if enabled g level then .send l.port (wired (Record.writeLine vcpu level [message])) else .idle

end SerialLogger

/-! ## The facade -/

namespace Facade

variable [Registry G] [OnceCell C]

/-- A facade that was never used. -/
def fresh : Facade G C where
  cell := OnceCell.new
  registry := Registry.initial

/-- Initialises the facade. The first time, the port is set up, and the serial logger asks to be
installed. -/
def initialise (f : Facade G C) (port : Port) (level : Filter) : Used G C :=
  let ((logger, cell), making) := OnceCell.callOnce f.cell (SerialLogger.make port) {}
  let registry :=
    -- another logger that is installed stays so, and that is not an error
    if making.made then (Registry.setLogger (.serial logger) f.registry).2 else f.registry
  { facade := { cell, registry := Registry.setMaxLevel level registry }
    output := making.output }

/-- Hands a line from the given virtual CPU to the installed logger. -/
def deliver (vcpu : UInt32) (f : Facade G C) (level : Level) (message : String) : Used G C :=
  match Registry.logger f.registry with
  | none => { facade := f }
  | some (.foreign name) => { facade := f, foreign := [⟨name, level, message⟩] }
  | some (.serial logger) => { facade := f, output := logger.log vcpu f.registry level message }

/-- Whether the installed logger takes lines of a level, where `takes` says it of the foreign
loggers. -/
def enabled (takes : Nat → Level → Bool) (f : Facade G C) (level : Level) : Bool :=
  match Registry.logger f.registry with
  | none => false
  | some (.foreign name) => takes name level
  | some (.serial _) => SerialLogger.enabled f.registry level

/-- Uses the facade once, from the given virtual CPU. -/
def use (vcpu : UInt32) (takes : Nat → Level → Bool) (f : Facade G C) : Use → Used G C
  | .init port level => f.initialise port level
  | .installForeign name =>
    let (installed, registry) := Registry.setLogger (.foreign name) f.registry
    { facade := { f with registry }, reply := .yesNo installed }
  | .log level message =>
    if Registry.passes f.registry level then f.deliver vcpu level message else { facade := f }
  | .logDirect level message => f.deliver vcpu level message
  | .enabled level => { facade := f, reply := .yesNo (f.enabled takes level) }
  | .maxLevel => { facade := f, reply := .filter (Registry.maxLevel f.registry) }
  | .flush => { facade := f }

/-- Uses the facade again and again. -/
def run (vcpu : UInt32) (takes : Nat → Level → Bool) (f : Facade G C) : List Use → List (Used G C)
  | [] => []
  | u :: rest =>
    let used := f.use vcpu takes u
    used :: run vcpu takes used.facade rest

end Facade

end GuestExit.Serial
