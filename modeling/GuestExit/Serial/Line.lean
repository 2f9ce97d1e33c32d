import GuestExit.Serial.Port

/-!
# Sending bytes

A byte may be handed to a serial port whenever its line status says that the
transmitter is empty, so each byte is sent after reading the status until it does.
Nothing bounds that wait: on a line that never gets ready it does not end, and
neither does anything that has to send a byte. Such a wait has no result, and the
functions here answer `none`.

A line that is never asked need not get ready. `send_eq_some` says that sending
ends if every wait it comes to does.
-/

namespace GuestExit.Serial

/-- Whether a line status says that the transmitter is empty. -/
def isReady (status : UInt8) : Bool :=
  status &&& 0x20 ≠ 0

/-- How the line status is answered. A wait is the reading of the status before one byte. -/
structure LineStatus where
  /-- The answers during the `n`-th wait, counted from 0. They come round again when they are used
  up, so a wait ends only if one of them is ready. -/
  answers : Nat → List UInt8

namespace LineStatus

/-- Whether the `n`-th wait ends. -/
def Ends (line : LineStatus) (n : Nat) : Prop :=
  ∃ status ∈ line.answers n, isReady status = true

end LineStatus

/-- The answers read until the transmitter is empty, if it ever is. -/
def poll : List UInt8 → Option (List UInt8)
  | [] => none
  | status :: rest => if isReady status then some [status] else (poll rest).map (status :: ·)

/-- Sends a byte after waiting. -/
def sendByte (p : Port) (answers : List UInt8) (byte : UInt8) : Option (List PortAccess) :=
  (poll answers).map fun read => read.map (.read p.lineStatus) ++ [.write p.base byte]

/-- Sends bytes, each after a wait of its own. The first wait has number `wait`. -/
def send (line : LineStatus) (p : Port) (wait : Nat) : List UInt8 → Option (List PortAccess)
  | [] => some []
  | byte :: rest => do
    let first ← sendByte p (line.answers wait) byte
    let others ← send line p (wait + 1) rest
    return first ++ others

/-- **A wait that ends reads some answers that are not ready, and then one that is.** -/
theorem poll_eq_some {answers read : List UInt8} (h : poll answers = some read) :
    ∃ busy status, read = busy ++ [status] ∧ isReady status = true
      ∧ ∀ b ∈ busy, isReady b = false := by
  induction answers generalizing read with
  | nil => simp [poll] at h
  | cons a rest ih =>
    rw [poll] at h
    split at h
    · next ha =>
      obtain rfl := Option.some.inj h
      exact ⟨[], a, rfl, ha, by simp⟩
    · next ha =>
      obtain ⟨tail, ht, rfl⟩ := Option.map_eq_some_iff.mp h
      obtain ⟨busy, status, rfl, hs, hb⟩ := ih ht
      refine ⟨a :: busy, status, rfl, hs, ?_⟩
      simpa [ha] using hb

/-- A wait ends if and only if one of the answers is ready. -/
theorem poll_isSome_iff {answers : List UInt8} :
    (poll answers).isSome = true ↔ ∃ status ∈ answers, isReady status = true := by
  induction answers with
  | nil => simp [poll]
  | cons a rest ih =>
    by_cases ha : isReady a = true
    · simp [poll, ha]
    · simp [poll, ha, ih]

/-- Sending ends if every wait does that it comes to. -/
theorem send_eq_some {line : LineStatus} {p : Port} {wait : Nat} {bytes : List UInt8}
    (h : ∀ n, wait ≤ n → n < wait + bytes.length → line.Ends n) :
    ∃ accesses, send line p wait bytes = some accesses := by
  induction bytes generalizing wait with
  | nil => exact ⟨[], rfl⟩
  | cons b rest ih =>
    have hw : line.Ends wait := h wait (Nat.le_refl _) (by simp)
    obtain ⟨read, hr⟩ := Option.isSome_iff_exists.mp (poll_isSome_iff.mpr hw)
    obtain ⟨others, ho⟩ := @ih (wait + 1) fun n h₁ h₂ =>
      h n (by omega) (by simp only [List.length_cons]; omega)
    exact ⟨_, by simp only [send, sendByte, hr, ho]; rfl⟩

/-- Bytes sent in two parts are sent like the whole. -/
theorem send_append (line : LineStatus) (p : Port) (wait : Nat) (a b : List UInt8) :
    send line p wait (a ++ b) = do
      let first ← send line p wait a
      let others ← send line p (wait + a.length) b
      return first ++ others := by
  induction a generalizing wait with
  | nil => simp [send]
  | cons x rest ih =>
    have hn : wait + 1 + rest.length = wait + (x :: rest).length := by
      simp only [List.length_cons]; omega
    cases hx : sendByte p (line.answers wait) x with
    | none => simp [send, hx]
    | some first =>
      cases hr : send line p (wait + 1) rest with
      | none => simp [send, hx, hr, ih]
      | some others =>
        simp only [List.cons_append, send, hx, hr, ih, hn]
        cases send line p (wait + (x :: rest).length) b <;> simp

end GuestExit.Serial
