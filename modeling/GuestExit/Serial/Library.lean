import GuestExit.Log.Level
import GuestExit.Serial.Port

/-!
# What the log facade stands on

Two things that the facade uses are not its own: a registry, in which a logger is installed and
a level is set for the whole program, and a cell that is filled once. What can be done with them is
given here (`Registry`, `OnceCell`), and apart from that what is documented of it
(`LawfulRegistry`, `LawfulOnceCell`). How they do it is left open.

The simplest registry and the simplest cell there can be serve to run the facade.
-/

namespace GuestExit.Serial

/-- The logger that writes to a serial port. -/
structure SerialLogger where
  port : Port
  deriving DecidableEq, Repr

/-- A logger that can be installed. -/
inductive Logger where
  /-- The one that writes to a serial port. -/
  | serial (logger : SerialLogger)
  /-- Any other. -/
  | foreign (name : Nat)
  deriving DecidableEq, Repr

/-! ## Registries -/

/-- A registry for the logger of a program. It has no logger and admits nothing to begin with. -/
class Registry (G : Type) where
  initial : G
  /-- Asks for a logger to be installed, and says whether it was. -/
  setLogger : Logger → G → Bool × G
  /-- The logger that is installed, if one is. -/
  logger : G → Option Logger
  setMaxLevel : Filter → G → G
  maxLevel : G → Filter
  /-- Whether a line of a level that is logged is handed to the logger, if there is one. -/
  passes : G → Level → Bool

open Registry in
/-- A registry that keeps to what is documented. -/
class LawfulRegistry (G : Type) [Registry G] : Prop where
  logger_initial : logger (initial : G) = none
  maxLevel_initial : maxLevel (initial : G) = .off
  /-- A logger is installed if there is none. -/
  setLogger_of_none {g : G} (h : logger g = none) (l : Logger) :
    (setLogger l g).1 = true ∧ logger (setLogger l g).2 = some l
  /-- It is an error to ask for a second one, and the first one remains. -/
  setLogger_of_some {g : G} {first : Logger} (h : logger g = some first) (l : Logger) :
    (setLogger l g).1 = false ∧ logger (setLogger l g).2 = some first
  maxLevel_setLogger (l : Logger) (g : G) : maxLevel (setLogger l g).2 = maxLevel g
  maxLevel_setMaxLevel (level : Filter) (g : G) : maxLevel (setMaxLevel level g) = level
  logger_setMaxLevel (level : Filter) (g : G) : logger (setMaxLevel level g) = logger g
  /-- Lines above the level that was set are discarded. -/
  passes_eq (g : G) (level : Level) : passes g level = (maxLevel g).admits level

/-! ## Cells -/

/-- A cell that is filled once, and keeps what it was filled with. -/
class OnceCell (C : Type → Type) where
  new {T : Type} : C T
  /-- What is in the cell, if it was filled. -/
  get {T : Type} : C T → Option T
  /-- Fills the cell with what a program makes, unless it is full, and returns what is in it. -/
  callOnce {S T : Type} : C T → StateM S T → StateM S (T × C T)

open OnceCell in
/-- A cell that keeps to what is documented. -/
class LawfulOnceCell (C : Type → Type) [OnceCell C] : Prop where
  get_new {T : Type} : get (new : C T) = none
  /-- The program is run if the cell is empty, -/
  callOnce_of_none {S T : Type} {cell : C T} (h : get cell = none) (make : StateM S T) (s : S) :
    ∃ filled, get filled = some (make s).1
      ∧ callOnce cell make s = (((make s).1, filled), (make s).2)
  /-- and is not run otherwise. -/
  callOnce_of_some {S T : Type} {cell : C T} {made : T} (h : get cell = some made)
    (make : StateM S T) (s : S) :
    ∃ filled, get filled = some made ∧ callOnce cell make s = ((made, filled), s)

/-! ## The simplest of them -/

/-- A registry that is two variables. -/
structure Globals where
  installed : Option Logger := none
  level : Filter := .off
  deriving DecidableEq, Repr

instance : Registry Globals where
  initial := {}
  setLogger l g := (g.installed.isNone, { g with installed := g.installed.or (some l) })
  logger := Globals.installed
  setMaxLevel level g := { g with level }
  maxLevel := Globals.level
  passes g level := g.level.admits level

instance : LawfulRegistry Globals where
  logger_initial := rfl
  maxLevel_initial := rfl
  setLogger_of_none {g} h l := by
    have hg : g.installed = none := h
    exact ⟨congrArg Option.isNone hg, congrArg (Option.or · (some l)) hg⟩
  setLogger_of_some {g first} h l := by
    have hg : g.installed = some first := h
    exact ⟨congrArg Option.isNone hg, congrArg (Option.or · (some l)) hg⟩
  maxLevel_setLogger _ _ := rfl
  maxLevel_setMaxLevel _ _ := rfl
  logger_setMaxLevel _ _ := rfl
  passes_eq _ _ := rfl

instance : OnceCell Option where
  new := none
  get cell := cell
  callOnce
    | some made, _ => pure (made, some made)
    | none, make => do
      let made ← make
      return (made, some made)

instance : LawfulOnceCell Option where
  get_new := rfl
  callOnce_of_none {_ _ cell} h make s := by
    obtain rfl : cell = none := h
    exact ⟨_, rfl, rfl⟩
  callOnce_of_some {_ _ cell made} h make s := by
    obtain rfl : cell = some made := h
    exact ⟨_, rfl, rfl⟩

end GuestExit.Serial
