/-!
# When a scripted handler claims

A scripted handler counts how often it was called, and claims an exit by a rule
that looks at the count, at the value that was decided about, or at what the last
policy said.
-/

namespace GuestExit.Script

/-- The private state of a scripted handler. -/
structure Tally where
  /-- What the handler is called, if it has a name. -/
  name : Option String := none
  /-- How often it was called. -/
  calls : Nat := 0
  deriving DecidableEq, Repr, Inhabited

/-- When a handler claims. -/
inductive ClaimRule where
  /-- Always or never. -/
  | always (claims : Bool)
  /-- On every `n`-th call. -/
  | every (n : Nat)
  /-- If the given bit of the value is set. -/
  | bit (index : Nat)
  /-- If the value is one of those given. -/
  | oneOf (values : List UInt64)
  /-- If the last policy that was asked did. -/
  | lastPolicy
  deriving DecidableEq, Repr

/-- Whether a rule claims, given the calls so far, the value decided about and what the last policy
said. -/
def ClaimRule.holds (rule : ClaimRule) (calls : Nat) (value : UInt64) (policy : Bool) : Bool :=
  match rule with
  | always claims => claims
  | every n => calls % n = 0
  | bit index => value.toNat.testBit index
  | oneOf values => values.contains value
  | lastPolicy => policy

end GuestExit.Script
