import GuestExit.ControlRegister.Virtualizer
import GuestExit.Proofs.Chain.Traversal
import GuestExit.Proofs.Machine.Changes
import GuestExit.Script.Handler

/-!
# What an access to a control register comes to

An access that is trapped is put before the handlers of its trap, on a descriptor
that is read off the machine as the guest left it (`Trap.initial`). What happens
next is settled by what the handlers leave: if they decline, nothing more; if they
claim, the value is moved where the access wants it (`Trap.transfer`) and the
instruction pointer behind the instruction (`Machine.advancement`), each unless the
handlers said that they had done so themselves.

The order matters, since a handler may write the very fields that the descriptor
was read from, and those that the instruction pointer is moved by. `Answered` pins it
down: the descriptor comes from the machine before the handlers, the instruction
length and the old instruction pointer from the machine after them.
-/

namespace GuestExit.ControlRegister

open ExitM

namespace Trap

/-- The trap and the operand of the access that a qualification describes. There are none if it
names no control register, or if there are no handlers for the access. -/
def ofWord? (word : UInt64) : Option (Trap × Gpr) :=
  match Qualification.decode word with
  | .ok q => (ofAccess? q.access).map (·, q.gpr)
  | .error _ => none

theorem ofWord?_eq_some_iff {word : UInt64} {t : Trap} {g : Gpr} :
    ofWord? word = some (t, g)
      ↔ ∃ q, Qualification.decode word = .ok q ∧ q.access = t.access ∧ q.gpr = g := by
  unfold ofWord?
  cases Qualification.decode word with
  | error e => simp
  | ok q =>
    constructor
    · intro h
      obtain ⟨u, hu, he⟩ := Option.map_eq_some_iff.mp h
      obtain ⟨rfl, rfl⟩ := Prod.mk.inj he
      exact ⟨q, rfl, (ofAccess?_eq_some_iff.mp hu).symm, rfl⟩
    · rintro ⟨q', hq, hshape, rfl⟩
      obtain rfl := Except.ok.inj hq
      simp [ofAccess?_eq_some_iff.mpr hshape.symm]

/-- The descriptor an access starts from, on the machine as the guest left it. -/
def initial (t : Trap) (g : Gpr) (m : Machine) : Descriptor :=
  match t with
  | writeCr0 => ⟨m.gpr g, m.vmcs.read .cr0Shadow, false, false⟩
  | readCr3 => ⟨m.vmcs.read .guestCr3, 0, false, false⟩
  | writeCr3 => ⟨m.gpr g, 0, false, false⟩
  | writeCr4 => ⟨m.gpr g, m.vmcs.read .cr4Shadow, false, false⟩

theorem value_defaults (t : Trap) (g : Gpr) (m : Machine) :
    (t.defaults g m).value = t.initial g m := by
  cases t <;> rfl

/-- What moving the value where the access wants it changes, in order. -/
def transfer (t : Trap) (g : Gpr) (info : Descriptor) : List Effect :=
  match t with
  | writeCr0 => [.write .guestCr0 info.value, .write .cr0Shadow info.shadow]
  | readCr3 => .save (.gpr g) info.value :: if g = Gpr.rsp then [.write .guestRsp info.value] else []
  | writeCr3 => [.write .guestCr3 info.value]
  | writeCr4 => [.write .guestCr4 info.value, .write .cr4Shadow info.shadow]

theorem effects_emulate (t : Trap) (g : Gpr) (info : Descriptor) (m : Machine) :
    (t.emulate g info m).effects = t.transfer g info := by
  cases t with
  | readCr3 => exact effects_writeGpr g info.value m
  | writeCr0 => rfl
  | writeCr3 => rfl
  | writeCr4 => rfl

theorem changes_transfer (t : Trap) (g : Gpr) (info : Descriptor) :
    changes (t.transfer g info) = t.transfer g info := by
  cases t with
  | readCr3 => by_cases hg : g = Gpr.rsp <;> simp [transfer, hg]
  | writeCr0 => rfl
  | writeCr3 => rfl
  | writeCr4 => rfl

theorem advancement_transfer (t : Trap) (g : Gpr) (info : Descriptor) (m : Machine) :
    (m.perform (t.transfer g info)).advancement = m.advancement := by
  cases t with
  | readCr3 =>
    by_cases hg : g = Gpr.rsp
    · simp +decide [transfer, hg, Machine.advancement, Vmcs.read_write]
    · simp [transfer, hg, Machine.advancement]
  | writeCr0 => simp +decide [transfer, Machine.advancement, Vmcs.read_write]
  | writeCr3 => simp +decide [transfer, Machine.advancement, Vmcs.read_write]
  | writeCr4 => simp +decide [transfer, Machine.advancement, Vmcs.read_write]

/-- What follows a claim, on the machine as the handlers left it and by the descriptor as they left
it: the value is moved, and then the instruction pointer. -/
def aftermath (t : Trap) (g : Gpr) (info : Descriptor) (m : Machine) : List Effect :=
  (if info.ignoreWrite then [] else t.transfer g info)
    ++ if info.ignoreAdvance then [] else m.advancement

/-- **Carrying an access out changes what its aftermath says**, and nothing else. -/
theorem changes_carryOut (t : Trap) (g : Gpr) (info : Descriptor) (m : Machine) :
    changes (t.carryOut g info m).effects = t.aftermath g info m := by
  -- the instruction pointer is moved on the machine that has the value already
  have hmoved : (t.emulate g info).final m = m.perform (t.transfer g info) := by
    rw [ExitM.final, effects_emulate]
  cases hw : info.ignoreWrite <;> cases ha : info.ignoreAdvance <;>
    simp [carryOut, aftermath, hw, ha, hmoved, effects_emulate, changes_transfer,
      changes_advanceRip, advancement_transfer]

end Trap

namespace Virtualizer

variable {σ : Type}

/-- What the handlers for a trap make of an access with the given operand. -/
def ask (v : Virtualizer σ) (t : Trap) (g : Gpr) (m : Machine) : Outcome (Dispatch σ Descriptor) :=
  (v.chains.get t).dispatch (t.initial g m) m

/-- What follows on the answer of the handlers: the aftermath of a claim, nothing otherwise. -/
def consequence (v : Virtualizer σ) (t : Trap) (g : Gpr) (m : Machine) : List Effect :=
  let d := v.ask t g m
  if d.value.claimed then t.aftermath g d.value.info (m.perform d.effects) else []

section Handle

variable {v : Virtualizer σ} {m : Machine} {t : Trap} {g : Gpr}

theorem handle_of_untrapped (v : Virtualizer σ)
    (h : Trap.ofWord? (m.vmcs.read .exitQualification) = none) :
    ∃ e, (v.handle m).value = v.refuse e ∧ changes (v.handle m).effects = [] := by
  unfold Trap.ofWord? at h
  cases hq : Qualification.decode (m.vmcs.read .exitQualification) with
  | error e => exact ⟨e, by rw [handle_of_invalid hq], by rw [handle_of_invalid hq]; rfl⟩
  | ok q =>
    have ht : Trap.ofAccess? q.access = none := by simpa [hq] using h
    refine ⟨.unsupportedAccess q.access, ?_, ?_⟩
    · rw [handle_of_unsupported hq ht]
    -- both effects are lines in the log
    · rw [handle_of_unsupported hq ht]
      rfl

theorem value_handle (h : Trap.ofWord? (m.vmcs.read .exitQualification) = some (t, g)) :
    (v.handle m).value =
      { virtualizer := v.conclude t (v.ask t g m).value
        result := .ok (v.ask t g m).value.claimed
        calls := (v.ask t g m).value.calls.map (t, ·) } := by
  obtain ⟨q, decoded, hshape, rfl⟩ := Trap.ofWord?_eq_some_iff.mp h
  rw [handle_of_trap decoded (Trap.ofAccess?_eq_some_iff.mpr hshape.symm), Trap.value_defaults]
  rfl

/-- **What changes is what the handlers change, and then what follows on their answer.** -/
theorem changes_handle (h : Trap.ofWord? (m.vmcs.read .exitQualification) = some (t, g)) :
    changes (v.handle m).effects = changes (v.ask t g m).effects ++ v.consequence t g m := by
  obtain ⟨q, decoded, hshape, rfl⟩ := Trap.ofWord?_eq_some_iff.mp h
  rw [handle_of_trap decoded (Trap.ofAccess?_eq_some_iff.mpr hshape.symm), Trap.value_defaults]
  unfold consequence ask
  cases hc : ((v.chains.get t).dispatch (t.initial q.gpr m) m).value.claimed <;>
    simp [hc, Trap.changes_carryOut]

/-- The machine is the one the handlers left with the consequence of their answer done to it. -/
theorem perform_handle (h : Trap.ofWord? (m.vmcs.read .exitQualification) = some (t, g)) :
    m.perform (v.handle m).effects
      = (m.perform (v.ask t g m).effects).perform (v.consequence t g m) := by
  rw [← Machine.perform_changes, changes_handle h, Machine.perform_append, Machine.perform_changes]

theorem consequence_of_declined (h : (v.ask t g m).value.claimed = false) :
    v.consequence t g m = [] := by
  simp [consequence, h]

theorem consequence_of_claimed (h : (v.ask t g m).value.claimed = true) :
    v.consequence t g m
      = t.aftermath g (v.ask t g m).value.info (m.perform (v.ask t g m).effects) := by
  simp [consequence, h]

end Handle

/-- What it means that an access of trap `t` with operand `g` was handled as it should. -/
structure Answered (v : Virtualizer σ) (t : Trap) (g : Gpr) (m : Machine)
    (o : Outcome (Handled σ)) : Prop where
  /-- The answer is that of the handlers. -/
  result : o.value.result = .ok (v.ask t g m).value.claimed
  /-- The handlers called are those of this one trap, asked once. -/
  calls : o.value.calls = (v.ask t g m).value.calls.map (t, ·)
  /-- What changes is what the handlers change, and then what follows on their answer. -/
  changes : changes o.effects = changes (v.ask t g m).effects ++ v.consequence t g m
  /-- If they claim, the machine is the one they left with the aftermath done to it. -/
  claimed : (v.ask t g m).value.claimed = true →
    m.perform o.effects = (m.perform (v.ask t g m).effects).perform
      (t.aftermath g (v.ask t g m).value.info (m.perform (v.ask t g m).effects))
  /-- If they decline, it is the one they left. -/
  declined : (v.ask t g m).value.claimed = false →
    m.perform o.effects = m.perform (v.ask t g m).effects
  /-- The handlers of this trap are as the dispatch left them, all others as they were. -/
  chains : ∀ u, o.value.virtualizer.chains.get u
    = if u = t then (v.ask t g m).value.chain else v.chains.get u
  /-- Claimed or not, the final value and shadow are recorded if recording is on. -/
  log : o.value.virtualizer.log = if v.logging
    then v.log.push t ⟨(v.ask t g m).value.info.value, (v.ask t g m).value.info.shadow⟩ else v.log
  /-- Recording stays on or off. -/
  logging : o.value.virtualizer.logging = v.logging

/-- **An access that has a trap is answered**, whatever the handlers of the four traps do. -/
theorem handle_answered (v : Virtualizer σ) (m : Machine) {q : Qualification} {t : Trap}
    (decoded : Qualification.decode (m.vmcs.read .exitQualification) = .ok q)
    (trapped : q.access = t.access) : Answered v t q.gpr m (v.handle m) := by
  have hword : Trap.ofWord? (m.vmcs.read .exitQualification) = some (t, q.gpr) :=
    Trap.ofWord?_eq_some_iff.mpr ⟨q, decoded, trapped, rfl⟩
  have hvalue := value_handle (v := v) hword
  have hmachine := perform_handle (v := v) hword
  refine
    { result := by rw [hvalue]
      calls := by rw [hvalue]
      changes := changes_handle hword
      claimed := fun hc => ?_
      declined := fun hc => ?_
      chains := fun u => ?_
      log := by rw [hvalue]; rfl
      logging := by rw [hvalue]; rfl }
  · rw [hmachine, consequence_of_claimed hc]
  · rw [hmachine, consequence_of_declined hc]
    rfl
  · rw [hvalue]
    exact PerTrap.get_set ..

/-- A store of CR3 to the stack pointer, granted by a handler behind one that declines after writing
to the fields and the descriptor: the value is that of the old CR3, the length is the new one. -/
theorem handle_answered_behind_meddler :
    let m : Machine :=
      { vmcs := ((({} : Vmcs).write .guestCr3 0x1000).write .exitInstructionLength 3).write
          .exitQualification 0x413 }
    let v : Virtualizer Script.Tally := (({} : Virtualizer Script.Tally).register .readCr3
        (Script.accessHandler "grants" [] (.always true))).register .readCr3
      (Script.accessHandler "meddles" [.machine (.write .guestCr3 0x2000),
        .machine (.write .exitInstructionLength 5), .raise 0x18] (.always false))
    Qualification.decode (m.vmcs.read .exitQualification)
        = .ok ⟨Trap.readCr3.access, Gpr.rsp, false, 0⟩
      ∧ Answered v .readCr3 Gpr.rsp m (v.handle m)
      ∧ changes (v.handle m).effects
        = [.write .guestCr3 0x2000, .write .exitInstructionLength 5,
          .save (.gpr Gpr.rsp) 0x1018, .write .guestRsp 0x1018,
          .save .rip 5, .write .guestRip 5] := by
  intro m v
  have hword : m.vmcs.read .exitQualification = 0x413 := Vmcs.read_write_self ..
  have decoded : Qualification.decode (m.vmcs.read .exitQualification)
      = .ok ⟨Trap.readCr3.access, Gpr.rsp, false, 0⟩ := by
    rw [hword]
    rfl
  exact ⟨decoded, handle_answered v m decoded rfl, by decide⟩

end Virtualizer

end GuestExit.ControlRegister
