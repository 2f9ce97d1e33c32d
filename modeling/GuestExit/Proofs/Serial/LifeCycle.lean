import GuestExit.Proofs.Serial.Handshake
import GuestExit.Serial.Facade
import GuestExit.Serial.Traffic

/-!
# The life of the log facade

A facade keeps the serial logger, if one was made, a logger that may be installed, and a level, and
each of the three follows a rule of its own: the first initialisation decides the port, the
first to ask decides the logger, the last initialisation decides the level. They need not
go together. A foreign logger that was installed before the first initialisation keeps all the
lines, and the port is set up for nothing.

What a facade remembers can be told from the uses made of it (`Facade.Remembers`), and what a use
does from the uses before it (`Lived`). The set-up is done once in a whole run, and the
run touches one port at most, although every initialisation names a port.

Of the registry and the cell nothing is known but the laws. One step of the argument needs them
in each direction: that a first initialisation makes the logger and asks for it to be installed
(`Facade.initialise_of_none`), and that a later one does neither (`Facade.initialise_of_some`).
-/

namespace GuestExit.Serial

namespace Use

/-- The port that a use would have set up. -/
def port? : Use → Option Port
  | init port _ => some port
  | _ => none

/-- The logger that a use would have installed. -/
def logger? : Use → Option Logger
  | init port _ => some (.serial ⟨port⟩)
  | installForeign name => some (.foreign name)
  | _ => none

/-- The level that a use asks for. -/
def filter? : Use → Option Filter
  | init _ level => some level
  | _ => none

/-- The record that a use asks for. -/
def record? (vcpu : UInt32) : Use → Option Record
  | log level message | logDirect level message => some { vcpu, level, message }
  | _ => none

end Use

/-! ## What is remembered -/

/-- The port of the first initialisation. -/
def firstPort (uses : List Use) : Option Port := uses.findSome? Use.port?

/-- The logger of the first initialisation or foreign installation, whichever came first. -/
def firstLogger (uses : List Use) : Option Logger := uses.findSome? Use.logger?

/-- The level of the last initialisation. -/
def lastFilter (uses : List Use) : Filter := (uses.filterMap Use.filter?).getLast?.getD .off

theorem firstPort_append (before after : List Use) :
    firstPort (before ++ after) = (firstPort before).or (firstPort after) :=
  List.findSome?_append

theorem firstPort_cons (u : Use) (rest : List Use) :
    firstPort (u :: rest) = u.port?.or (firstPort rest) := by
  cases u <;> rfl

theorem firstPort_snoc (before : List Use) (u : Use) :
    firstPort (before ++ [u]) = (firstPort before).or u.port? := by
  rw [firstPort_append, firstPort_cons]
  exact congrArg _ (Option.or_none ..)

theorem firstLogger_cons (u : Use) (rest : List Use) :
    firstLogger (u :: rest) = u.logger?.or (firstLogger rest) := by
  cases u <;> rfl

theorem firstLogger_snoc (before : List Use) (u : Use) :
    firstLogger (before ++ [u]) = (firstLogger before).or u.logger? := by
  unfold firstLogger
  rw [List.findSome?_append]
  cases u <;> rfl

theorem lastFilter_snoc (before : List Use) (u : Use) :
    lastFilter (before ++ [u]) = u.filter?.getD (lastFilter before) := by
  unfold lastFilter
  rw [List.filterMap_append]
  cases h : u.filter? with
  | none => simp [List.filterMap, h]
  | some level => simp [List.filterMap, h]

/-- The serial logger is installed only for the port that was set up. -/
theorem firstPort_of_serial {uses : List Use} {p : Port}
    (h : firstLogger uses = some (.serial ⟨p⟩)) : firstPort uses = some p := by
  induction uses with
  | nil => exact absurd h (by simp [firstLogger])
  | cons u rest ih =>
    rw [firstLogger_cons] at h
    rw [firstPort_cons]
    cases u with
    | init port level =>
      obtain rfl : port = p := by simpa [Use.logger?] using h
      rfl
    | installForeign => exact absurd h (by simp [Use.logger?])
    | log | logDirect | enabled | maxLevel | flush => exact ih h

/-- Where a port was set up there is a logger. -/
theorem firstLogger_ne_none {uses : List Use} (h : firstPort uses ≠ none) :
    firstLogger uses ≠ none := by
  intro hnone
  refine h (List.findSome?_eq_none_iff.mpr fun u hu => ?_)
  have hu' := List.findSome?_eq_none_iff.mp hnone u hu
  cases u with
  | init port level => exact absurd hu' (Option.some_ne_none _)
  | _ => rfl

variable {G : Type} {C : Type → Type} [Registry G]
variable {vcpu : UInt32} {takes : Nat → Level → Bool} {f : Facade G C}

/-! ## What a line comes to -/

/-- A logger is installed if and only if there is none, and says so. -/
theorem setLogger_eq [LawfulRegistry G] (l : Logger) (g : G) :
    (Registry.setLogger l g).1 = (Registry.logger g).isNone
      ∧ Registry.logger (Registry.setLogger l g).2 = (Registry.logger g).or (some l) := by
  cases h : Registry.logger g with
  | none => exact LawfulRegistry.setLogger_of_none h l
  | some first => exact LawfulRegistry.setLogger_of_some h l

theorem wired_writeLine (vcpu : UInt32) (level : Level) (message : String) :
    wired (Record.writeLine vcpu level [message])
      = encode ({ vcpu, level, message : Record }).text := by
  rw [Record.writeLine_eq, wired_putAll]
  rfl

theorem Facade.deliver_facade (vcpu : UInt32) (f : Facade G C) (level : Level) (message : String) :
    (f.deliver vcpu level message).facade = f := by
  unfold Facade.deliver
  split <;> rfl

theorem Facade.deliver_setUp (vcpu : UInt32) (f : Facade G C) (level : Level) (message : String)
    (p : Port) : (f.deliver vcpu level message).output ≠ .setUp p := by
  unfold Facade.deliver SerialLogger.log
  split
  · exact Output.noConfusion
  · exact Output.noConfusion
  · dsimp only
    split <;> exact Output.noConfusion

theorem Facade.deliver_send_iff {level : Level} {message : String} {p : Port}
    {bytes : List UInt8} :
    (f.deliver vcpu level message).output = .send p bytes ↔
      Registry.logger f.registry = some (.serial ⟨p⟩)
        ∧ (Registry.maxLevel f.registry).admits level = true
        ∧ bytes = encode ({ vcpu, level, message : Record }).text := by
  unfold Facade.deliver SerialLogger.log SerialLogger.enabled
  rw [wired_writeLine]
  cases hi : Registry.logger f.registry with
  | none => simp
  | some logger =>
    cases logger with
    | foreign name => simp
    | serial logger =>
      cases ha : (Registry.maxLevel f.registry).admits level with
      | false => simp
      | true =>
        obtain ⟨q⟩ := logger
        simp [eq_comm]

theorem Facade.mem_foreign_deliver_iff {level : Level} {message : String} {line : Handed} :
    line ∈ (f.deliver vcpu level message).foreign ↔
      Registry.logger f.registry = some (.foreign line.name)
        ∧ line.level = level ∧ line.message = message := by
  obtain ⟨name, level', message'⟩ := line
  unfold Facade.deliver
  cases hi : Registry.logger f.registry with
  | none => simp
  | some logger =>
    cases logger with
    | foreign name' => simp [eq_comm]
    | serial logger => simp

theorem Facade.length_foreign_deliver (vcpu : UInt32) (f : Facade G C) (level : Level)
    (message : String) : (f.deliver vcpu level message).foreign.length ≤ 1 := by
  unfold Facade.deliver
  split <;> simp

/-! ## What comes of a use -/

variable [OnceCell C]

/-- What a facade remembers of the uses made of it: the first port, the first logger and the last
level. -/
structure Facade.Remembers (f : Facade G C) (uses : List Use) : Prop where
  /-- The serial logger was made for the first port, -/
  cell : OnceCell.get f.cell = (firstPort uses).map SerialLogger.mk
  /-- the first logger is installed, -/
  logger : Registry.logger f.registry = firstLogger uses
  /-- and the last level holds. -/
  level : Registry.maxLevel f.registry = lastFilter uses

/-- A use that asks for nothing to be remembered leaves all that is. -/
theorem Facade.Remembers.same {before : List Use} (h : f.Remembers before) {u : Use}
    (hport : u.port? = none) (hlogger : u.logger? = none) (hfilter : u.filter? = none) :
    f.Remembers (before ++ [u]) where
  cell := by rw [firstPort_snoc, hport, Option.or_none, h.cell]
  logger := by rw [firstLogger_snoc, hlogger, Option.or_none, h.logger]
  level := by rw [lastFilter_snoc, hfilter, Option.getD_none, h.level]

/-- What comes of a use of a facade, made after some others of a fresh one, where `takes` is what
foreign loggers say they take. -/
structure Lived (vcpu : UInt32) (takes : Nat → Level → Bool) (before : List Use) (u : Use)
    (used : Used G C) : Prop where
  /-- The facade remembers the use as well. -/
  remembers : used.facade.Remembers (before ++ [u])
  /-- What is installed stays. -/
  stays : ∀ logger, firstLogger before = some logger →
    Registry.logger used.facade.registry = some logger
  /-- A foreign logger gets installed if and only if there is none. -/
  installs : ∀ name, u = .installForeign name →
    used.reply = .yesNo (decide (firstLogger before = none))
  /-- The first initialisation sets its port up, and nothing else sets up a port. -/
  setsUp : ∀ p, used.output = .setUp p ↔ firstPort before = none ∧ u.port? = some p
  /-- A later one changes the level and nothing else. -/
  again : ∀ port level, u = .init port level → firstPort before ≠ none →
    used.output = .idle ∧ used.foreign = []
      ∧ OnceCell.get used.facade.cell = (firstPort before).map SerialLogger.mk
      ∧ Registry.logger used.facade.registry = firstLogger before
      ∧ Registry.maxLevel used.facade.registry = level
  /-- A record is sent if and only if the serial logger is installed and the last level admits it.
  It does not matter whether the facade was asked. -/
  sends : ∀ p bytes, used.output = .send p bytes ↔
    firstLogger before = some (.serial ⟨p⟩) ∧ ∃ r, u.record? vcpu = some r
      ∧ (lastFilter before).admits r.level = true ∧ bytes = encode r.text
  /-- A foreign logger is given whatever reaches it, -/
  foreign : ∀ line, line ∈ used.foreign ↔ firstLogger before = some (.foreign line.name)
    ∧ (u = .logDirect line.level line.message
      ∨ u = .log line.level line.message ∧ (lastFilter before).admits line.level = true)
  /-- and only once. -/
  once : used.foreign.length ≤ 1
  /-- It is the installed logger that is asked what it takes. -/
  enabled : ∀ level, u = .enabled level → used.reply = .yesNo
    (match firstLogger before with
      | none => false
      | some (.foreign name) => takes name level
      | some (.serial _) => (lastFilter before).admits level)
  /-- The level of the facade is the last one. -/
  maxLevel : u = .maxLevel → used.reply = .filter (lastFilter before)

/-! ## What a use does -/

namespace Facade

theorem length_run (vcpu : UInt32) (takes : Nat → Level → Bool) (f : Facade G C)
    (uses : List Use) : (Facade.run vcpu takes f uses).length = uses.length := by
  induction uses generalizing f with
  | nil => rfl
  | cons u rest ih => simp [Facade.run, ih]

variable [LawfulOnceCell C]

/-- **The first initialisation makes the serial logger**, and asks for it to be installed. -/
theorem initialise_of_none (h : OnceCell.get f.cell = none) (port : Port) (level : Filter) :
    ∃ cell, OnceCell.get cell = some ⟨port⟩
      ∧ f.initialise port level = {
        facade := ⟨cell, Registry.setMaxLevel level
          (Registry.setLogger (.serial ⟨port⟩) f.registry).2⟩
        output := .setUp port } := by
  obtain ⟨cell, hget, hcall⟩ :=
    LawfulOnceCell.callOnce_of_none h (SerialLogger.make port) ({} : Making)
  refine ⟨cell, hget, ?_⟩
  rw [initialise, hcall]
  rfl

/-- **A later initialisation does not make a logger**, whatever port it names. -/
theorem initialise_of_some {made : SerialLogger} (h : OnceCell.get f.cell = some made)
    (port : Port) (level : Filter) :
    ∃ cell, OnceCell.get cell = some made
      ∧ f.initialise port level = {
        facade := ⟨cell, Registry.setMaxLevel level f.registry⟩ } := by
  obtain ⟨cell, hget, hcall⟩ :=
    LawfulOnceCell.callOnce_of_some h (SerialLogger.make port) ({} : Making)
  refine ⟨cell, hget, ?_⟩
  rw [initialise, hcall]
  rfl

/-- A port is set up by the first initialisation alone. -/
theorem use_setUp_iff {u : Use} {p : Port} :
    (f.use vcpu takes u).output = .setUp p ↔ OnceCell.get f.cell = none ∧ u.port? = some p := by
  cases u with
  | init port level =>
    cases hcell : OnceCell.get f.cell with
    | none =>
      obtain ⟨cell, -, heq⟩ := initialise_of_none hcell port level
      simp [use, heq, Use.port?]
    | some made =>
      obtain ⟨cell, -, heq⟩ := initialise_of_some hcell port level
      simp [use, heq]
  | log level message =>
    simp only [use, Use.port?]
    split
    · simp [deliver_setUp]
    · simp
  | logDirect level message => simp [use, Use.port?, deliver_setUp]
  | installForeign | enabled | maxLevel | flush => simp [use, Use.port?]

/-- Initialising sends nothing and hands nothing on. -/
theorem initialise_silent (f : Facade G C) (port : Port) (level : Filter) :
    (∀ p bytes, (f.initialise port level).output ≠ .send p bytes)
      ∧ (f.initialise port level).foreign = [] := by
  cases hcell : OnceCell.get f.cell with
  | none =>
    obtain ⟨cell, -, heq⟩ := initialise_of_none hcell port level
    rw [heq]
    exact ⟨fun _ _ => Output.noConfusion, rfl⟩
  | some made =>
    obtain ⟨cell, -, heq⟩ := initialise_of_some hcell port level
    rw [heq]
    exact ⟨fun _ _ => Output.noConfusion, rfl⟩

theorem length_foreign_use (vcpu : UInt32) (takes : Nat → Level → Bool) (f : Facade G C)
    (u : Use) : (f.use vcpu takes u).foreign.length ≤ 1 := by
  cases u with
  | init port level => simp [use, (f.initialise_silent port level).2]
  | log level message =>
    simp only [use]
    split
    · exact length_foreign_deliver vcpu f level message
    · exact Nat.zero_le 1
  | logDirect level message => exact length_foreign_deliver vcpu f level message
  | installForeign | enabled | maxLevel | flush => exact Nat.zero_le 1

variable [LawfulRegistry G]

/-- The serial logger looks at the level itself, so it is all the same whether the facade did
before. -/
theorem use_send_iff {u : Use} {p : Port} {bytes : List UInt8} :
    (f.use vcpu takes u).output = .send p bytes ↔
      Registry.logger f.registry = some (.serial ⟨p⟩) ∧ ∃ r, u.record? vcpu = some r
        ∧ (Registry.maxLevel f.registry).admits r.level = true ∧ bytes = encode r.text := by
  cases u with
  | init port level => simp [use, Use.record?, (f.initialise_silent port level).1]
  | log level message =>
    simp only [use, Use.record?, Option.some.injEq, exists_eq_left', LawfulRegistry.passes_eq]
    split
    · exact deliver_send_iff
    · next hadmits => simp [hadmits]
  | logDirect level message =>
    simp only [use, Use.record?, Option.some.injEq, exists_eq_left']
    exact deliver_send_iff
  | installForeign | enabled | maxLevel | flush => simp [use, Use.record?]

theorem mem_foreign_use_iff {u : Use} {line : Handed} :
    line ∈ (f.use vcpu takes u).foreign ↔ Registry.logger f.registry = some (.foreign line.name)
      ∧ (u = .logDirect line.level line.message
        ∨ u = .log line.level line.message
          ∧ (Registry.maxLevel f.registry).admits line.level = true) := by
  cases u with
  | init port level => simp [use, (f.initialise_silent port level).2]
  | log level message =>
    simp only [use, LawfulRegistry.passes_eq]
    split
    · next hadmits =>
      rw [mem_foreign_deliver_iff]
      grind
    · grind
  | logDirect level message =>
    simp only [use, mem_foreign_deliver_iff]
    grind
  | installForeign | enabled | maxLevel | flush => simp [use]

/-! ## One use after others -/

theorem fresh_remembers : (fresh : Facade G C).Remembers [] where
  cell := LawfulOnceCell.get_new
  logger := LawfulRegistry.logger_initial
  level := LawfulRegistry.maxLevel_initial

/-- **What the facade remembers is kept up by every use.** -/
theorem Remembers.use {before : List Use} (h : f.Remembers before) (u : Use) :
    (f.use vcpu takes u).facade.Remembers (before ++ [u]) := by
  cases u with
  | init port level =>
    cases hp : firstPort before with
    | none =>
      obtain ⟨cell, hget, heq⟩ := initialise_of_none (by rw [h.cell, hp]; rfl) port level
      simp only [Facade.use, heq]
      exact {
        cell := by
          rw [hget, firstPort_snoc, hp]
          rfl
        logger := by
          rw [LawfulRegistry.logger_setMaxLevel, (setLogger_eq _ _).2, h.logger, firstLogger_snoc]
          rfl
        level := by
          rw [LawfulRegistry.maxLevel_setMaxLevel, lastFilter_snoc]
          rfl }
    | some q =>
      have hmade : OnceCell.get f.cell = some ⟨q⟩ := by rw [h.cell, hp]; rfl
      obtain ⟨cell, hget, heq⟩ := initialise_of_some hmade port level
      -- whoever was first to ask is still installed
      obtain ⟨logger, hlogger⟩ :=
        Option.ne_none_iff_exists'.mp (firstLogger_ne_none (hp ▸ Option.some_ne_none q))
      simp only [Facade.use, heq]
      exact {
        cell := by
          rw [hget, firstPort_snoc, hp]
          rfl
        logger := by
          rw [LawfulRegistry.logger_setMaxLevel, h.logger, firstLogger_snoc, hlogger]
          rfl
        level := by
          rw [LawfulRegistry.maxLevel_setMaxLevel, lastFilter_snoc]
          rfl }
  | installForeign name =>
    simp only [Facade.use]
    exact {
      cell := by
        rw [h.cell, firstPort_snoc]
        simp [Use.port?]
      logger := by
        rw [(setLogger_eq _ _).2, h.logger, firstLogger_snoc]
        rfl
      level := by
        rw [LawfulRegistry.maxLevel_setLogger, h.level, lastFilter_snoc]
        rfl }
  | log level message =>
    have hsame : (f.use vcpu takes (.log level message)).facade = f := by
      simp only [Facade.use]
      split
      · exact deliver_facade vcpu f level message
      · rfl
    rw [hsame]
    exact h.same rfl rfl rfl
  | logDirect level message =>
    simp only [Facade.use, deliver_facade]
    exact h.same rfl rfl rfl
  | enabled | maxLevel | flush => exact h.same rfl rfl rfl

/-- A foreign logger that came first leaves the port to be set up, and an initialisation that came
first leaves nothing to a foreign logger. -/
theorem Remembers.lived {before : List Use} (h : f.Remembers before) (u : Use) :
    Lived vcpu takes before u (f.use vcpu takes u) where
  remembers := h.use u
  stays logger hlogger := by
    rw [(h.use u).logger, firstLogger_snoc, hlogger, Option.some_or]
  installs name hu := by
    subst hu
    show Reply.yesNo (Registry.setLogger (.foreign name) f.registry).1 = _
    rw [(setLogger_eq _ _).1, h.logger]
    cases firstLogger before <;> rfl
  setsUp p := by
    rw [use_setUp_iff, h.cell, Option.map_eq_none_iff]
  again port level hu hport := by
    obtain ⟨q, hq⟩ := Option.ne_none_iff_exists'.mp hport
    obtain ⟨logger, hlogger⟩ := Option.ne_none_iff_exists'.mp (firstLogger_ne_none hport)
    have hleft : (f.use vcpu takes u).facade.Remembers (before ++ [u]) := h.use u
    have hmade : OnceCell.get f.cell = some ⟨q⟩ := by rw [h.cell, hq]; rfl
    subst hu
    obtain ⟨cell, -, heq⟩ := initialise_of_some hmade port level
    refine ⟨?_, ?_, ?_, ?_, ?_⟩
    · rw [Facade.use, heq]
    · rw [Facade.use, heq]
    · rw [hleft.cell, firstPort_snoc, hq, Option.some_or]
    · rw [hleft.logger, firstLogger_snoc, hlogger, Option.some_or]
    · rw [hleft.level, lastFilter_snoc]
      rfl
  sends p bytes := by
    rw [use_send_iff, h.logger, h.level]
  foreign line := by
    rw [mem_foreign_use_iff, h.logger, h.level]
  once := length_foreign_use vcpu takes f u
  enabled level hu := by
    subst hu
    show Reply.yesNo (f.enabled takes level) = _
    unfold Facade.enabled SerialLogger.enabled
    rw [h.logger]
    match firstLogger before with
    | none | some (.foreign _) => rfl
    | some (.serial _) => exact congrArg (fun most => Reply.yesNo (most.admits level)) h.level
  maxLevel hu := by
    subst hu
    exact congrArg Reply.filter h.level

example : (Facade.run 0 (fun _ _ => true) (fresh : Facade Globals Option)
    [.installForeign 7, .init .com1 (.upTo .info), .log .warn "x"]).map
      (fun used => (used.output, used.foreign))
        = [(.idle, []), (.setUp .com1, []), (.idle, [⟨7, .warn, "x"⟩])] := by decide

/-! ## Runs -/

/-- Each use of a run finds what the uses before it have left. -/
theorem Remembers.run_lived {past : List Use} (h : f.Remembers past) (before : List Use) (u : Use)
    (later : List Use) :
    ∃ used, (Facade.run vcpu takes f (before ++ u :: later))[before.length]? = some used
      ∧ Lived vcpu takes (past ++ before) u used := by
  induction before generalizing f past with
  | nil => exact ⟨f.use vcpu takes u, rfl, by simpa using h.lived u⟩
  | cons v before ih =>
    obtain ⟨used, hget, hlived⟩ := ih (h.use v)
    rw [List.append_assoc, List.singleton_append] at hlived
    exact ⟨used, by simpa [Facade.run] using hget, hlived⟩

theorem Remembers.mem_run {past uses : List Use} (h : f.Remembers past) {used : Used G C}
    (hused : used ∈ Facade.run vcpu takes f uses) :
    ∃ before u later, uses = before ++ u :: later
      ∧ Lived vcpu takes (past ++ before) u used := by
  obtain ⟨n, hn, rfl⟩ := List.mem_iff_getElem.mp hused
  have hn' : n < uses.length := length_run vcpu takes f uses ▸ hn
  have hsplit : uses = uses.take n ++ uses[n] :: uses.drop (n + 1) := by simp
  obtain ⟨used, hget, hlived⟩ := h.run_lived (uses.take n) uses[n] (uses.drop (n + 1))
  rw [← hsplit, List.length_take_of_le (Nat.le_of_lt hn'), List.getElem?_eq_getElem hn] at hget
  exact ⟨_, _, _, hsplit, Option.some.inj hget ▸ hlived⟩

end Facade

/-! ## The port -/

/-- The writes that set a port up, in their order. -/
def settings (p : Port) : List (UInt16 × UInt8) :=
  [(p.base + 1, 0x00), (p.base + 3, 0x80), (p.base, 0x03), (p.base + 1, 0x00),
    (p.base + 3, 0x03), (p.base + 2, 0xC7), (p.base + 4, 0x0B)]

/-- The I/O port of an access. -/
def PortAccess.port : PortAccess → UInt16
  | read port _ | write port _ => port

namespace Output

/-- The port an output is about. -/
def port? : Output → Option Port
  | idle => none
  | setUp port | send port _ => some port

def settings : Output → List (UInt16 × UInt8)
  | setUp port => Serial.settings port
  | _ => []

def bytes : Output → List UInt8
  | send _ bytes => bytes
  | _ => []

/-- The bytes of an output, each with the I/O port it goes to. -/
def data : Output → List (UInt16 × UInt8)
  | send port bytes => bytes.map (port.base, ·)
  | _ => []

end Output

namespace Facade

variable [LawfulRegistry G] [LawfulOnceCell C]

/-- A run sets up the port of its first initialisation, unless one was set up before. -/
theorem Remembers.settings_run {past : List Use} (h : f.Remembers past) (uses : List Use) :
    (Facade.run vcpu takes f uses).flatMap (·.output.settings)
      = if firstPort past = none then (firstPort uses).toList.flatMap settings else [] := by
  induction uses generalizing f past with
  | nil => simp [Facade.run, firstPort]
  | cons u rest ih =>
    have hlived : Lived vcpu takes past u (f.use vcpu takes u) := h.lived u
    simp only [Facade.run, List.flatMap_cons, ih (h.use u), firstPort_snoc, firstPort_cons]
    cases ho : (f.use vcpu takes u).output with
    | setUp p =>
      obtain ⟨hnone, hu⟩ := (hlived.setsUp p).mp ho
      simp [hnone, hu, Output.settings]
    | idle | send =>
      -- nothing is set up now: either that was done before, or this is no initialisation
      by_cases hnone : firstPort past = none
      · cases hu : u.port? with
        | none => simp [hnone, Output.settings]
        | some p =>
          have hset := (hlived.setsUp p).mpr ⟨hnone, hu⟩
          exact absurd (ho.symm.trans hset) Output.noConfusion
      · simp [hnone, Output.settings]

/-- **Only the port of the first initialisation is ever touched.** -/
theorem port_run {uses : List Use} {used : Used G C}
    (h : used ∈ Facade.run vcpu takes (fresh : Facade G C) uses) {p : Port}
    (hp : used.output.port? = some p) : firstPort uses = some p := by
  obtain ⟨before, u, later, rfl, hlived⟩ := fresh_remembers.mem_run h
  rw [List.nil_append] at hlived
  cases ho : used.output with
  | idle => simp [ho, Output.port?] at hp
  | setUp q =>
    obtain rfl : q = p := by simpa [ho, Output.port?] using hp
    obtain ⟨hnone, hu⟩ := (hlived.setsUp q).mp ho
    rw [firstPort_append, firstPort_cons, hnone, hu]
    rfl
  | send q bytes =>
    obtain rfl : q = p := by simpa [ho, Output.port?] using hp
    obtain ⟨hlogger, -⟩ := (hlived.sends q bytes).mp ho
    rw [firstPort_append, firstPort_of_serial hlogger]
    rfl

/-- All bytes of a run go to that port. -/
theorem data_run (vcpu : UInt32) (takes : Nat → Level → Bool) (uses : List Use) :
    let ran := Facade.run vcpu takes (fresh : Facade G C) uses
    ran.flatMap (·.output.data)
      = (firstPort uses).toList.flatMap fun p =>
        (ran.flatMap (·.output.bytes)).map (p.base, ·) := by
  intro ran
  cases hfirst : firstPort uses with
  | none =>
    refine List.flatMap_eq_nil_iff.mpr fun used hused => ?_
    cases ho : used.output with
    | idle | setUp => rfl
    | send p bytes =>
      have hp := port_run hused (p := p) (by rw [ho]; rfl)
      exact absurd (hfirst.symm.trans hp) (Option.some_ne_none p).symm
  | some p =>
    rw [Option.toList_some, List.flatMap_singleton, List.map_flatMap, List.flatMap_def,
      List.flatMap_def]
    refine congrArg List.flatten (List.map_congr_left fun used hused => ?_)
    cases ho : used.output with
    | idle | setUp => rfl
    | send q bytes =>
      have hq := port_run hused (p := q) (by rw [ho]; rfl)
      obtain rfl : q = p := Option.some.inj (hq.symm.trans hfirst)
      rfl

end Facade

/-! ## The traffic -/

theorem sort_reads (polls : Nat) (port : UInt16) (answers : List UInt8)
    (rest : List PortAccess) :
    Traffic.sort polls (answers.map (.read port) ++ rest)
      = Traffic.sort (polls + answers.length) rest := by
  induction answers generalizing polls with
  | nil => rfl
  | cons a answers ih =>
    have hlength : polls + (a :: answers).length = polls + 1 + answers.length := by
      rw [List.length_cons]
      omega
    rw [hlength, ← ih]
    rfl

theorem sort_writes (writes : List (UInt16 × UInt8)) (rest : List PortAccess) :
    Traffic.sort 0 (writes.map (fun w => .write w.1 w.2) ++ rest)
      = { Traffic.sort 0 rest with bare := writes ++ (Traffic.sort 0 rest).bare } := by
  induction writes with
  | nil => rfl
  | cons w writes ih => simp [Traffic.sort, ih]

theorem sort_handovers (p : Port) (handovers : List Handover) (rest : List PortAccess) :
    Traffic.sort 0 (handovers.flatMap (·.accesses p) ++ rest)
      = { Traffic.sort 0 rest with
          sent := handovers.map (fun h => ⟨p.base, h.byte, h.busy.length + 1⟩)
            ++ (Traffic.sort 0 rest).sent } := by
  induction handovers with
  | nil => rfl
  | cons h handovers ih =>
    -- a handover reads the status at least once
    have hpolls : 0 + h.answers.length = h.busy.length + 1 := by simp [Handover.answers]
    rw [List.flatMap_cons, Handover.accesses, List.append_assoc, List.append_assoc, sort_reads,
      hpolls]
    simp [Traffic.sort, ih]

theorem accessesAll_cons_eq_some {line : LineStatus} {wait : Nat} {o : Output}
    {rest : List Output} {parts : List (List PortAccess)} :
    Output.accessesAll line wait (o :: rest) = some parts ↔
      ∃ first others, o.accesses line wait = some first
        ∧ Output.accessesAll line (wait + o.waits) rest = some others
        ∧ parts = first :: others := by
  simp only [Output.accessesAll, Option.bind_eq_bind, Option.bind_eq_some_iff, Option.pure_def,
    Option.some.injEq]
  constructor
  · rintro ⟨first, hfirst, others, hothers, rfl⟩
    exact ⟨first, others, hfirst, hothers, rfl⟩
  · rintro ⟨first, others, hfirst, hothers, rfl⟩
    exact ⟨first, hfirst, others, hothers, rfl⟩

/-- Some accesses carry out some outputs: what they write by themselves sets ports up, and
what they write after a wait are the bytes. -/
theorem ofAccesses_accessesAll {line : LineStatus} {wait : Nat} {outputs : List Output}
    {parts : List (List PortAccess)} (h : Output.accessesAll line wait outputs = some parts) :
    (Traffic.ofAccesses parts.flatten).bare = outputs.flatMap Output.settings
      ∧ (Traffic.ofAccesses parts.flatten).sent.map (fun s => (s.port, s.byte))
        = outputs.flatMap Output.data := by
  induction outputs generalizing wait parts with
  | nil =>
    obtain rfl := Option.some.inj h
    exact ⟨rfl, rfl⟩
  | cons o rest ih =>
    obtain ⟨first, others, hfirst, hothers, rfl⟩ := accessesAll_cons_eq_some.mp h
    obtain ⟨hbare, hsent⟩ := ih hothers
    unfold Traffic.ofAccesses at hbare hsent ⊢
    rw [List.flatten_cons]
    cases o with
    | idle =>
      obtain rfl := Option.some.inj hfirst
      exact ⟨hbare, hsent⟩
    | setUp p =>
      obtain rfl : (settings p).map (fun w => .write w.1 w.2) = first := Option.some.inj hfirst
      rw [sort_writes]
      exact ⟨by rw [hbare]; rfl, hsent⟩
    | send p bytes =>
      obtain ⟨handovers, hall⟩ := send_handedOver hfirst
      rw [hall.accesses, sort_handovers]
      refine ⟨hbare, ?_⟩
      rw [List.map_append, hsent, List.map_map, List.flatMap_cons, Output.data, ← hall.bytes,
        List.map_map]
      rfl

/-- The accesses of each output, at the place of the output. -/
theorem getElem?_accessesAll {line : LineStatus} {wait : Nat} {outputs : List Output}
    {parts : List (List PortAccess)} (h : Output.accessesAll line wait outputs = some parts) :
    parts.length = outputs.length
      ∧ ∀ n : Nat, ∃ wait', parts[n]? = outputs[n]?.bind (Output.accesses line wait') := by
  induction outputs generalizing wait parts with
  | nil =>
    obtain rfl := Option.some.inj h
    exact ⟨rfl, fun n => ⟨0, by simp⟩⟩
  | cons o rest ih =>
    obtain ⟨first, others, hfirst, hothers, rfl⟩ := accessesAll_cons_eq_some.mp h
    obtain ⟨hlength, hget⟩ := ih hothers
    refine ⟨by simp [hlength], fun n => ?_⟩
    cases n with
    | zero => exact ⟨wait, by simp [hfirst]⟩
    | succ n => simpa using hget n

/-- All accesses go to the port that the output is about. -/
theorem port_of_mem_accesses {line : LineStatus} {wait : Nat} {o : Output}
    {accesses : List PortAccess} (h : o.accesses line wait = some accesses) {a : PortAccess}
    (ha : a ∈ accesses) : ∃ p, o.port? = some p ∧ p.base ≤ a.port ∧ a.port ≤ p.base + 5 := by
  cases o with
  | idle =>
    obtain rfl := Option.some.inj h
    exact absurd ha List.not_mem_nil
  | setUp p =>
    obtain rfl := Option.some.inj h
    have hall : ∀ a ∈ setUp p, p.base ≤ a.port ∧ a.port ≤ p.base + 5 := by
      cases p <;> decide
    exact ⟨p, rfl, hall a ha⟩
  | send p bytes =>
    obtain ⟨handovers, hall⟩ := send_handedOver h
    have hbounds : p.base ≤ p.base + 5 := by cases p <;> decide
    rw [hall.accesses] at ha
    obtain ⟨o, -, ho⟩ := List.mem_flatMap.mp ha
    refine ⟨p, rfl, ?_⟩
    rcases List.mem_append.mp ho with hread | hwrite
    · obtain ⟨status, -, rfl⟩ := List.mem_map.mp hread
      exact ⟨hbounds, UInt16.le_refl _⟩
    · obtain rfl := List.mem_singleton.mp hwrite
      exact ⟨UInt16.le_refl _, hbounds⟩

/-- On a line whose waits end every output is carried out. -/
theorem accessesAll_eq_some {line : LineStatus} (ends : ∀ n, line.Ends n) (wait : Nat)
    (outputs : List Output) : ∃ parts, Output.accessesAll line wait outputs = some parts := by
  induction outputs generalizing wait with
  | nil => exact ⟨[], rfl⟩
  | cons o rest ih =>
    have hfirst : ∃ first, o.accesses line wait = some first := by
      cases o with
      | idle => exact ⟨_, rfl⟩
      | setUp p => exact ⟨_, rfl⟩
      | send p bytes => exact send_eq_some fun n _ _ => ends n
    obtain ⟨first, hfirst⟩ := hfirst
    obtain ⟨others, hothers⟩ := ih (wait + o.waits)
    exact ⟨_, accessesAll_cons_eq_some.mpr ⟨first, others, hfirst, hothers, rfl⟩⟩

/--
**The life of the log facade**, over any uses of a fresh one, whatever registry and cell it stands
on, if only they are lawful. Each use does what the uses before it leave to do (`Lived`). On the
I/O ports, if the line lets the run through, the seven writes of
the set-up come once, to the port of the first initialisation, and all else that
is written are the bytes of the records sent. No other port is touched, and a
line whose waits end lets every run through.
-/
theorem facade_lives {G : Type} {C : Type → Type} [Registry G] [LawfulRegistry G] [OnceCell C]
    [LawfulOnceCell C] (vcpu : UInt32) (takes : Nat → Level → Bool) (uses : List Use) :
    let ran := Facade.run vcpu takes (Facade.fresh : Facade G C) uses
    let outputs := ran.map (·.output)
    ran.length = uses.length
      ∧ (∀ before u later, uses = before ++ u :: later →
        ∃ used, ran[before.length]? = some used ∧ Lived vcpu takes before u used)
      ∧ ∀ line, ((∀ n, line.Ends n) → ∃ parts, Output.accessesAll line 0 outputs = some parts)
        ∧ ∀ parts, Output.accessesAll line 0 outputs = some parts →
          let traffic := Traffic.ofAccesses parts.flatten
          parts.length = uses.length
            ∧ (∀ n : Nat, ∃ wait, parts[n]? = outputs[n]?.bind (Output.accesses line wait))
            ∧ traffic.bare = (firstPort uses).toList.flatMap settings
            ∧ traffic.sent.map (fun s => (s.port, s.byte))
              = ((firstPort uses).toList.flatMap fun p =>
                (outputs.flatMap Output.bytes).map (p.base, ·))
            ∧ ∀ a ∈ parts.flatten,
              ∃ p, firstPort uses = some p ∧ p.base ≤ a.port ∧ a.port ≤ p.base + 5 := by
  intro ran outputs
  have hlength : ran.length = uses.length := Facade.length_run vcpu takes _ uses
  refine ⟨hlength, fun before u later huses => ?_, fun line =>
    ⟨fun ends => accessesAll_eq_some ends 0 outputs, fun parts hparts => ?_⟩⟩
  · obtain ⟨used, hget, hlived⟩ :=
      (Facade.fresh_remembers (G := G) (C := C)).run_lived before u later
    rw [← huses] at hget
    exact ⟨used, hget, hlived⟩
  · intro traffic
    obtain ⟨hparts_length, hget⟩ := getElem?_accessesAll hparts
    obtain ⟨hbare, hsent⟩ := ofAccesses_accessesAll hparts
    refine ⟨?_, hget, ?_, ?_, fun a ha => ?_⟩
    · rw [hparts_length, List.length_map, hlength]
    · rw [hbare, List.flatMap_map]
      exact Facade.fresh_remembers.settings_run uses
    · rw [hsent, List.flatMap_map, List.flatMap_map]
      exact Facade.data_run vcpu takes uses
    · obtain ⟨part, hpart, ha⟩ := List.mem_flatten.mp ha
      obtain ⟨n, hn⟩ := List.mem_iff_getElem?.mp hpart
      obtain ⟨wait, hpart'⟩ := hget n
      rw [hn] at hpart'
      obtain ⟨o, ho, haccesses⟩ := Option.bind_eq_some_iff.mp hpart'.symm
      obtain ⟨used, hused, rfl⟩ := List.mem_map.mp (List.mem_of_getElem? ho)
      obtain ⟨p, hp, hbounds⟩ := port_of_mem_accesses haccesses ha
      exact ⟨p, Facade.port_run hused hp, hbounds⟩

/-- A line comes too early, a foreign logger too late, and the second initialisation names another
port. All the same the only record goes to the first port, and it is the last level that decides. -/
theorem facade_lives_second_port :
    let uses : List Use := [.log .error "early", .init .com1 (.upTo .info), .installForeign 0,
      .init .com2 (.upTo .warn), .logDirect .info "low", .log .warn "x"]
    let ran := Facade.run 3 (fun _ _ => true) (Facade.fresh : Facade Globals Option) uses
    let line : LineStatus := ⟨fun _ => [0x00, 0x20]⟩
    (∃ used, ran[2]? = some used ∧ used.reply = .yesNo false)
      ∧ (∃ used, ran[3]? = some used ∧ used.output = .idle
        ∧ used.facade.cell = some ⟨.com1⟩
        ∧ used.facade.registry = ⟨some (.serial ⟨.com1⟩), .upTo .warn⟩)
      ∧ (∀ n, line.Ends n)
      ∧ ∃ parts, Output.accessesAll line 0 (ran.map (·.output)) = some parts
        ∧ (Traffic.ofAccesses parts.flatten).bare = settings .com1
        ∧ (Traffic.ofAccesses parts.flatten).sent.map (fun s => (s.port, s.byte))
          = (encode "vcpu-3 WARN: x\n").map (0x3F8, ·)
        ∧ ∀ a ∈ parts.flatten, 0x3F8 ≤ a.port ∧ a.port ≤ 0x3FD := by
  intro uses ran line
  have ends : ∀ n, line.Ends n := fun n => ⟨0x20, by simp [line], by decide⟩
  obtain ⟨-, huses, hlines⟩ := facade_lives (G := Globals) (C := Option) 3 (fun _ _ => true) uses
  obtain ⟨late, hlate, hrefused⟩ := huses (uses.take 2) (.installForeign 0) (uses.drop 3) rfl
  obtain ⟨used, hget, hlived⟩ := huses (uses.take 3) (.init .com2 (.upTo .warn)) (uses.drop 4) rfl
  obtain ⟨hidle, -, hcell, hlogger, hlevel⟩ :=
    hlived.again .com2 (.upTo .warn) rfl (by decide)
  obtain ⟨hsome, hparts⟩ := hlines line
  obtain ⟨parts, hall⟩ := hsome ends
  obtain ⟨-, -, hbare, hsent, hports⟩ := hparts parts hall
  refine ⟨⟨late, hlate, hrefused.installs 0 rfl⟩, ⟨used, hget, hidle, hcell, ?_⟩, ends, parts,
    hall, hbare, hsent, fun a ha => ?_⟩
  · exact congr (congrArg Globals.mk hlogger) hlevel
  · obtain ⟨p, hp, hlow, hhigh⟩ := hports a ha
    obtain rfl : Port.com1 = p := Option.some.inj hp
    exact ⟨hlow, hhigh⟩

end GuestExit.Serial
