/-!
# Routes

An exit is served by one of two virtualizers. A route names the one.
-/

namespace GuestExit

/-- The virtualizer that serves an exit. -/
inductive Route where
  | controlRegister
  | externalInterrupt
  deriving DecidableEq, Repr

namespace Route

/-- The name of a route in messages. -/
def name : Route → String
  | controlRegister => "ControlRegister"
  | externalInterrupt => "ExternalInterrupt"

/-- Both routes. -/
def all : List Route := [controlRegister, externalInterrupt]

end Route

end GuestExit
