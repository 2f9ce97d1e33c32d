import GuestExit.Machine.Word

/-!
# Interruption information

One format describes the event that caused an exit and the event delivered on the
next entry:

| bits   | field                                   |
|--------|-----------------------------------------|
| 0–7    | vector                                  |
| 8–10   | kind of event                           |
| 11     | whether there is an error code          |
| 12     | whether NMIs were being unblocked       |
| 31     | whether the word describes an event     |

The other bits are reserved. `ofWord?` reads an event and `word` writes one.
-/

namespace GuestExit

/-- A kind of event. -/
inductive InterruptionKind where
  | externalInterrupt | nonMaskableInterrupt | hardwareException | softwareInterrupt
  | privilegedSoftwareException | softwareException | otherEvent
  deriving DecidableEq, Repr

namespace InterruptionKind

/-- The architectural number of a kind of event. The number 1 is reserved. -/
def code : InterruptionKind → Nat
  | externalInterrupt => 0
  | nonMaskableInterrupt => 2
  | hardwareException => 3
  | softwareInterrupt => 4
  | privilegedSoftwareException => 5
  | softwareException => 6
  | otherEvent => 7

/-- The name of a kind of event. -/
def name : InterruptionKind → String
  | externalInterrupt => "ExternalInterrupt"
  | nonMaskableInterrupt => "NonMaskableInterrupt"
  | hardwareException => "HardwareException"
  | softwareInterrupt => "SoftwareInterrupt"
  | privilegedSoftwareException => "PrivilegedSoftwareException"
  | softwareException => "SoftwareException"
  | otherEvent => "OtherEvent"

/-- The kind of event with the given number, if there is one. -/
def ofCode? : Nat → Option InterruptionKind
  | 0 => some externalInterrupt
  | 2 => some nonMaskableInterrupt
  | 3 => some hardwareException
  | 4 => some softwareInterrupt
  | 5 => some privilegedSoftwareException
  | 6 => some softwareException
  | 7 => some otherEvent
  | _ => none

theorem ofCode?_eq_some_iff {n : Nat} {k : InterruptionKind} :
    ofCode? n = some k ↔ k.code = n := by
  constructor
  · intro h
    unfold ofCode? at h
    split at h <;> cases h <;> rfl
  · rintro rfl
    cases k <;> rfl

theorem code_lt (k : InterruptionKind) : k.code < 8 := by
  cases k <;> decide

end InterruptionKind

/-- An event, as an exit or an entry describes it. -/
structure Interruption where
  vector : UInt8
  kind : InterruptionKind
  /-- Whether the event has an error code. -/
  hasErrorCode : Bool := false
  /-- Whether the event hit while NMIs were being unblocked. -/
  nmiUnblocking : Bool := false
  deriving DecidableEq, Repr

namespace Interruption

/-- The event a word describes: none if its valid bit is clear or its kind is reserved. -/
def ofWord? (word : UInt32) : Option Interruption :=
  let bits := bitField word.toNat
  if bits 31 1 = 1 then
    (InterruptionKind.ofCode? (bits 8 3)).map fun kind =>
      { vector := .ofNat (bits 0 8)
        kind
        hasErrorCode := bits 11 1 = 1
        nmiUnblocking := bits 12 1 = 1 }
  else none

/-- The word that describes an event, with all reserved bits clear. -/
def word (e : Interruption) : UInt32 :=
  .ofNat <|
    e.vector.toNat + e.kind.code <<< 8 + e.hasErrorCode.toNat <<< 11
      + e.nmiUnblocking.toNat <<< 12 + 1 <<< 31

example : ofWord? 0x800000C8 = some { vector := 200, kind := .externalInterrupt } := by decide

example : ofWord? 0xC8 = none ∧ ofWord? 0x800001C8 = none := by decide

example : word { vector := 13, kind := .hardwareException, hasErrorCode := true } = 0x80000B0D := by
  decide

end Interruption

end GuestExit
