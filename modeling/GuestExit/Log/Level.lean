/-!
# Log levels

Five levels from the gravest to the most talkative, and the filters that cut
them off: a filter admits the levels up to a given one, or none at all.
-/

namespace GuestExit

/-- How grave a log line is. -/
inductive Level where
  | error | warn | info | debug | trace
  deriving DecidableEq, Repr

namespace Level

/-- The graver a level, the lower its rank. The gravest has rank 1. -/
def rank : Level → Nat
  | error => 1
  | warn => 2
  | info => 3
  | debug => 4
  | trace => 5

/-- The name a level has in a log line. -/
def name : Level → String
  | error => "ERROR"
  | warn => "WARN"
  | info => "INFO"
  | debug => "DEBUG"
  | trace => "TRACE"

/-- All levels, gravest first. -/
def all : List Level := [error, warn, info, debug, trace]

end Level

/-- Which levels are let through. -/
inductive Filter where
  /-- Nothing is let through. -/
  | off
  /-- The given level and every graver one are let through. -/
  | upTo (level : Level)
  deriving DecidableEq, Repr

namespace Filter

/-- Whether a line of the given level is let through. -/
def admits : Filter → Level → Bool
  | off, _ => false
  | upTo most, level => level.rank ≤ most.rank

/-- The name of a filter: that of its most talkative level, or `OFF`. -/
def name : Filter → String
  | off => "OFF"
  | upTo level => level.name

/-- All filters, from the strictest on. -/
def all : List Filter := off :: Level.all.map upTo

end Filter

end GuestExit
