import GuestExit.Proofs.Serial.Decoding
import GuestExit.Serial.Output

/-!
# The handshake

A byte is not simply written to a serial port. The line status is read until it says that the
transmitter is empty, and only then is the byte written; a `Handover` is one such exchange. All
traffic of sending a text consists of them, one for each byte on the wire (`HandedOver`), and
it does not show whether the text came whole or in pieces.

A line is given by its answers to each wait. A device knows nothing of waits: it answers one read
after another, and a wait ends with the first answer that is ready. `waits` cuts the answers of
a device at those places, so a device is a line as well (`LineStatus.ofAnswers`), and it keeps
up as long as it has as many ready answers as there are bytes.
-/

namespace GuestExit.Serial

/-- A byte is handed over: some reads of the line status that found the transmitter busy, one that
found it empty, and the write. -/
structure Handover where
  busy : List UInt8
  status : UInt8
  byte : UInt8
  waited : ∀ b ∈ busy, b &&& 0x20 = 0
  ready : status &&& 0x20 ≠ 0

namespace Handover

/-- The line status as it was read. -/
def answers (h : Handover) : List UInt8 := h.busy ++ [h.status]

/-- The accesses to the port. The status is read five ports above the one that is written. -/
def accesses (p : Port) (h : Handover) : List PortAccess :=
  h.answers.map (.read (p.base + 5)) ++ [.write p.base h.byte]

end Handover

/-- The accesses to a port by which bytes are handed over one after another, the first after wait
number `wait` of the line. -/
structure HandedOver (line : LineStatus) (p : Port) (wait : Nat) (bytes : List UInt8)
    (accesses : List PortAccess) (handovers : List Handover) : Prop where
  /-- There are no other accesses, -/
  accesses : accesses = handovers.flatMap (·.accesses p)
  /-- these are the bytes written, -/
  bytes : handovers.map (·.byte) = bytes
  /-- and what was read is what the line answered. -/
  answers : ∀ n h, handovers[n]? = some h → h.answers <+: line.answers (wait + n)

/-! ## One byte -/

theorem isReady_iff {status : UInt8} : isReady status = true ↔ status &&& 0x20 ≠ 0 :=
  decide_eq_true_iff

theorem isReady_eq_false_iff {status : UInt8} : isReady status = false ↔ status &&& 0x20 = 0 := by
  rw [isReady, decide_eq_false_iff_not, Decidable.not_not]

/-- A wait reads answers until there are none, or one is ready. -/
theorem poll_prefix {answers read : List UInt8} (h : poll answers = some read) :
    read <+: answers := by
  induction answers generalizing read with
  | nil => exact absurd h (by simp [poll])
  | cons a rest ih =>
    rw [poll] at h
    split at h
    · obtain rfl := Option.some.inj h
      exact ⟨rest, rfl⟩
    · obtain ⟨tail, ht, rfl⟩ := Option.map_eq_some_iff.mp h
      exact (List.prefix_cons_inj a).mpr (ih ht)

/-- A wait that finds the line busy for some time, and then ready, ends there. -/
theorem Handover.poll_answers (h : Handover) (rest : List UInt8) :
    poll (h.answers ++ rest) = some h.answers := by
  obtain ⟨busy, status, byte, waited, ready⟩ := h
  show poll (busy ++ [status] ++ rest) = some (busy ++ [status])
  induction busy with
  | nil =>
    have hs := isReady_iff.mpr ready
    simp [poll, hs]
  | cons b busy ih =>
    have hb := isReady_eq_false_iff.mpr (waited b List.mem_cons_self)
    have htail := ih fun b' hb' => waited b' (List.mem_cons_of_mem b hb')
    simp only [List.cons_append, poll, hb, Bool.false_eq_true, if_false, htail, Option.map_some]

theorem sendByte_handover {p : Port} {answers : List UInt8} {byte : UInt8}
    {accesses : List PortAccess} (h : sendByte p answers byte = some accesses) :
    ∃ o : Handover, accesses = o.accesses p ∧ o.byte = byte ∧ o.answers <+: answers := by
  obtain ⟨read, hread, rfl⟩ := Option.map_eq_some_iff.mp h
  obtain ⟨busy, status, rfl, hready, hbusy⟩ := poll_eq_some hread
  refine ⟨⟨busy, status, byte, fun b hb => ?_, isReady_iff.mp hready⟩, rfl, rfl, poll_prefix hread⟩
  exact isReady_eq_false_iff.mp (hbusy b hb)

/-! ## Many bytes -/

/-- **Whatever is sent is handed over byte by byte.** -/
theorem send_handedOver {line : LineStatus} {p : Port} {wait : Nat} {bytes : List UInt8}
    {accesses : List PortAccess} (h : send line p wait bytes = some accesses) :
    ∃ handovers, HandedOver line p wait bytes accesses handovers := by
  induction bytes generalizing wait accesses with
  | nil =>
    obtain rfl := Option.some.inj h
    exact ⟨[], rfl, rfl, by simp⟩
  | cons byte rest ih =>
    obtain ⟨first, hfirst, h'⟩ := Option.bind_eq_some_iff.mp h
    obtain ⟨others, hothers, h''⟩ := Option.bind_eq_some_iff.mp h'
    obtain rfl := Option.some.inj h''
    obtain ⟨o, rfl, hbyte, hanswers⟩ := sendByte_handover hfirst
    obtain ⟨handovers, hall⟩ := ih hothers
    refine ⟨o :: handovers, ?_, ?_, fun n o' ho' => ?_⟩
    · rw [List.flatMap_cons, hall.accesses]
    · rw [List.map_cons, hbyte, hall.bytes]
    · cases n with
      | zero =>
        obtain rfl := Option.some.inj ho'
        exact hanswers
      | succ n =>
        -- the wait before this byte has been counted
        have hwait : wait + (n + 1) = wait + 1 + n := by omega
        rw [hwait]
        exact hall.answers n o' ho'

/-- Texts sent one after another make the same accesses as the whole sent at once. -/
theorem flatten_accessesAll_send (line : LineStatus) (p : Port) (wait : Nat)
    (pieces : List String) :
    (Output.accessesAll line wait (pieces.map fun piece => .send p (encode piece))).map
        List.flatten
      = send line p wait (encode (String.join pieces)) := by
  induction pieces generalizing wait with
  | nil => rfl
  | cons piece rest ih =>
    have hcons : Output.accessesAll line wait
        ((piece :: rest).map fun piece => .send p (encode piece)) = (do
          let first ← send line p wait (encode piece)
          let others ← Output.accessesAll line (wait + (encode piece).length)
            (rest.map fun piece => .send p (encode piece))
          return first :: others) := rfl
    rw [hcons, String.join_cons, encode_append, send_append, ← ih]
    cases send line p wait (encode piece) with
    | none => rfl
    | some first =>
      cases Output.accessesAll line (wait + (encode piece).length)
        (rest.map fun piece => .send p (encode piece)) <;> rfl

/-! ## Devices -/

/-- The waits that the answers of a device are cut into: each ends with a ready answer. Busy answers
behind the last ready one make no wait that ends. -/
def waits : List UInt8 → List (List UInt8)
  | [] => []
  | status :: rest =>
    if isReady status then [status] :: waits rest
    else match waits rest with
      | [] => []
      | w :: ws => (status :: w) :: ws

/-- The line of a device that answers one read after another with the given bytes. -/
def LineStatus.ofAnswers (answers : List UInt8) : LineStatus where
  answers n := (waits answers)[n]?.getD []

/-- There is a wait for each answer that is ready. -/
theorem length_waits (answers : List UInt8) :
    (waits answers).length = answers.countP isReady := by
  induction answers with
  | nil => rfl
  | cons status rest ih =>
    unfold waits
    by_cases h : isReady status = true
    · rw [if_pos h, List.countP_cons_of_pos h, List.length_cons, ih]
    · rw [if_neg h, List.countP_cons_of_neg h, ← ih]
      split <;> simp_all

/-- Each of them is read to its end, and no further. -/
theorem poll_of_mem_waits {answers w : List UInt8} (h : w ∈ waits answers) : poll w = some w := by
  induction answers generalizing w with
  | nil => exact absurd h List.not_mem_nil
  | cons status rest ih =>
    unfold waits at h
    by_cases hs : isReady status = true
    · rw [if_pos hs] at h
      rcases List.mem_cons.mp h with rfl | h'
      · simp [poll, hs]
      · exact ih h'
    · rw [if_neg hs] at h
      split at h
      · exact absurd h List.not_mem_nil
      · next w' ws e =>
        rcases List.mem_cons.mp h with rfl | h'
        · have hw' : poll w' = some w' := ih (e ▸ List.mem_cons_self)
          simp [poll, hs, hw']
        · exact ih (e ▸ List.mem_cons_of_mem w' h')

/-- Together they are the answers, but for what comes behind the last ready one. -/
theorem flatten_waits (answers : List UInt8) : (waits answers).flatten <+: answers := by
  induction answers with
  | nil => exact List.prefix_refl _
  | cons status rest ih =>
    unfold waits
    split
    · exact (List.prefix_cons_inj status).mpr ih
    · split
      · exact List.nil_prefix
      · next w ws e =>
        rw [e] at ih
        exact (List.prefix_cons_inj status).mpr ih

theorem ends_ofAnswers {answers : List UInt8} {n : Nat} (h : n < answers.countP isReady) :
    (LineStatus.ofAnswers answers).Ends n := by
  have hn : n < (waits answers).length := (length_waits answers).symm ▸ h
  have hget : (LineStatus.ofAnswers answers).answers n = (waits answers)[n] := by
    simp [LineStatus.ofAnswers, hn]
  rw [LineStatus.Ends, hget]
  refine poll_isSome_iff.mp ?_
  rw [poll_of_mem_waits (List.getElem_mem hn)]
  rfl

/-- **A device is asked for its answers in order**, and no more often than needed. -/
theorem answers_handedOver {answers : List UInt8} {p : Port} {bytes : List UInt8}
    {accesses : List PortAccess} {handovers : List Handover}
    (h : HandedOver (.ofAnswers answers) p 0 bytes accesses handovers)
    (enough : bytes.length ≤ answers.countP isReady) :
    handovers.flatMap (·.answers) <+: answers := by
  have hlength : handovers.length = bytes.length := by
    rw [← h.bytes, List.length_map]
  -- the answers of a handover and the wait of the device end with the same ready answer
  have hwaits : handovers.map (·.answers) = (waits answers).take handovers.length := by
    refine List.ext_getElem ?_ fun n hn _ => ?_
    · rw [List.length_map, List.length_take, length_waits]
      omega
    · rw [List.length_map] at hn
      have hw : n < (waits answers).length := by rw [length_waits]; omega
      have hprefix := h.answers n handovers[n] (List.getElem?_eq_getElem hn)
      rw [Nat.zero_add] at hprefix
      have hget : (LineStatus.ofAnswers answers).answers n = (waits answers)[n] := by
        simp [LineStatus.ofAnswers, hw]
      rw [hget] at hprefix
      obtain ⟨rest, hrest⟩ := hprefix
      have hpoll := poll_of_mem_waits (List.getElem_mem hw)
      rw [← hrest, Handover.poll_answers, hrest] at hpoll
      rw [List.getElem_map, List.getElem_take, Option.some.inj hpoll]
  have hflat : handovers.flatMap (·.answers) = ((waits answers).take handovers.length).flatten := by
    rw [← hwaits, List.flatMap_def]
  rw [hflat]
  refine List.IsPrefix.trans ?_ (flatten_waits answers)
  refine ⟨((waits answers).drop handovers.length).flatten, ?_⟩
  rw [← List.flatten_append, List.take_append_drop]

/-! ## Texts -/

/-- A text sent in pieces is handed over on a line whose waits end. -/
theorem send_pieces_handedOver {line : LineStatus} (p : Port) {wait : Nat} (pieces : List String)
    (ends : ∀ n, n < (encode (String.join pieces)).length → line.Ends (wait + n)) :
    ∃ parts handovers,
      Output.accessesAll line wait (pieces.map fun piece => .send p (encode piece)) = some parts
        ∧ send line p wait (encode (String.join pieces)) = some parts.flatten
        ∧ HandedOver line p wait (encode (String.join pieces)) parts.flatten handovers := by
  have hends : ∀ n, wait ≤ n → n < wait + (encode (String.join pieces)).length →
      line.Ends n := by
    intro n hle hlt
    have h := ends (n - wait) (by omega)
    rwa [Nat.add_sub_cancel' hle] at h
  obtain ⟨accesses, hsend⟩ := send_eq_some (p := p) hends
  have hparts := flatten_accessesAll_send line p wait pieces
  rw [hsend] at hparts
  obtain ⟨parts, hsome, rfl⟩ := Option.map_eq_some_iff.mp hparts
  obtain ⟨handovers, hall⟩ := send_handedOver hsend
  exact ⟨parts, handovers, hsome, hsend, hall⟩

/--
**A text gets through whole**, in whatever pieces it comes and whatever is on the line. If every
wait ends, so does the writing; each byte is handed over after a wait of its own, and the bytes are
those of the text in UTF-8 with a carriage return in front of each line feed. It takes no more of a
device than a ready answer for each of them. And the text can be read back from the bytes, so no
other text is sent like it.
-/
theorem text_gets_through (p : Port) (pieces : List String) :
    let text := String.join pieces
    let sent := (utf8 text).flatMap fun byte => if byte = 0x0A then [0x0D, 0x0A] else [byte]
    (∀ (line : LineStatus) (wait : Nat), (∀ n, n < sent.length → line.Ends (wait + n)) →
        ∃ parts handovers,
          Output.accessesAll line wait (pieces.map fun piece => .send p (encode piece)) = some parts
            ∧ Output.accesses line wait (.send p (encode text)) = some parts.flatten
            ∧ HandedOver line p wait sent parts.flatten handovers)
      ∧ (∀ answers, sent.length ≤ answers.countP isReady →
        ∃ parts handovers,
          Output.accessesAll (.ofAnswers answers) 0
              (pieces.map fun piece => .send p (encode piece)) = some parts
            ∧ HandedOver (.ofAnswers answers) p 0 sent parts.flatten handovers
            ∧ handovers.flatMap (·.answers) <+: answers)
      ∧ strip sent = utf8 text ∧ decode sent = some text
      ∧ ∀ other, encode other = encode text → other = text := by
  intro text sent
  refine ⟨fun line wait ends => send_pieces_handedOver p pieces ends, fun answers enough => ?_,
    strip_flatMap_encodeByte _, decode_encode text, fun other h => encode_injective h⟩
  have ends : ∀ n, n < sent.length → (LineStatus.ofAnswers answers).Ends (0 + n) := by
    intro n hn
    rw [Nat.zero_add]
    exact ends_ofAnswers (by omega)
  obtain ⟨parts, handovers, hparts, -, hall⟩ := send_pieces_handedOver p pieces ends
  exact ⟨parts, handovers, hparts, hall, answers_handedOver hall enough⟩

/-- A line that ends in a carriage return and a line feed is cut between the two, and the device is
busy now and then. Both carriage returns are sent, and the one that was put in is dropped again. -/
theorem text_gets_through_cut_line :
    let answers : List UInt8 := [0x00, 0x60, 0x20, 0x1F, 0x40, 0x20, 0x60, 0x00]
    let sent : List UInt8 := [0x61, 0x0D, 0x0D, 0x0A]
    encode "a\r\n" = sent ∧ sent.length ≤ answers.countP isReady
      ∧ (∃ parts handovers,
        Output.accessesAll (.ofAnswers answers) 0
            [.send .com1 (encode "a\r"), .send .com1 (encode "\n")] = some parts
          ∧ HandedOver (.ofAnswers answers) .com1 0 sent parts.flatten handovers
          ∧ handovers.flatMap (·.answers) <+: answers)
      ∧ decode sent = some "a\r\n" := by
  intro answers sent
  have enough : sent.length ≤ answers.countP isReady := by decide
  obtain ⟨-, hdevice, -, hdecode, -⟩ := text_gets_through .com1 ["a\r", "\n"]
  exact ⟨by decide, enough, hdevice answers enough, hdecode⟩

end GuestExit.Serial
