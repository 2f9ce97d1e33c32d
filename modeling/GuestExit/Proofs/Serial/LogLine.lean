import GuestExit.Proofs.Serial.LifeCycle
import GuestExit.Proofs.Text.Lines
import GuestExit.Proofs.Text.Reading

/-!
# A line of the log says which record it is

A message may hold anything, also what stands between the parts of a line, and whole lines that look
like others. It does no harm, because the message comes last: the number ends where its digits do,
the level at the first colon, and all that follows but for the line feed at the end is the message.
`Record.ofText?` reads a line that way, and accepts the lines of records and nothing else.

So no two records have the same line. Neither are they sent alike on a serial port, where a text can
be read back from its bytes.
-/

namespace GuestExit

open Text (numeral)

/-- The level of a given name. -/
def Level.ofName? (name : String) : Option Level :=
  all.find? fun level => level.name = name

theorem Level.ofName?_name (level : Level) : ofName? level.name = some level := by
  cases level <;> decide

namespace Record

/-! ## Reading a line -/

/-- The parts of a line that vary. -/
structure Parts where
  number : List Char
  level : List Char
  message : List Char

/-- The parts of a line, if it is the line of a record. -/
def parts (text : String) : Parts :=
  let line := text.toList.drop 5
  let rest := (line.dropWhile Char.isDigit).drop 1
  { number := line.takeWhile Char.isDigit
    level := rest.takeWhile (· ≠ ':')
    message := ((rest.dropWhile (· ≠ ':')).drop 2).dropLast }

/-- The record that a text would be the line of, going by its parts. -/
def guess? (text : String) : Option Record :=
  (Level.ofName? (String.ofList (parts text).level)).map fun level =>
    { vcpu := .ofNat (numeral 10 (parts text).number)
      level
      message := String.ofList (parts text).message }

/-- The record that a text is the line of. -/
def ofText? (text : String) : Option Record :=
  (guess? text).filter fun r => r.text = text

theorem toList_text (r : Record) : r.text.toList = "vcpu-".toList
    ++ (Nat.toDigits 10 r.vcpu.toNat ++ ' ' :: (r.level.name.toList
      ++ ':' :: ' ' :: (r.message.toList ++ ['\n']))) := by
  simp [text, pieces, linePieces, String.toList_append]

theorem parts_text (r : Record) : parts r.text
    = ⟨Nat.toDigits 10 r.vcpu.toNat, r.level.name.toList, r.message.toList⟩ := by
  have hname : ∀ c ∈ r.level.name.toList, decide (c ≠ ':') = true := by
    rw [← List.all_eq_true]
    cases r.level <;> decide
  have hline : r.text.toList.drop 5 = Nat.toDigits 10 r.vcpu.toNat ++ ' ' :: (r.level.name.toList
      ++ ':' :: ' ' :: (r.message.toList ++ ['\n'])) := by
    rw [toList_text]
    exact List.drop_left' rfl
  have hnumber : (r.text.toList.drop 5).takeWhile Char.isDigit = Nat.toDigits 10 r.vcpu.toNat := by
    rw [hline, Text.takeWhile_decimal _ rfl]
  have hrest : ((r.text.toList.drop 5).dropWhile Char.isDigit).drop 1
      = r.level.name.toList ++ ':' :: ' ' :: (r.message.toList ++ ['\n']) := by
    rw [hline, List.dropWhile_append_of_pos Text.isDigit_of_mem_decimal]
    rfl
  unfold parts
  simp only [hnumber, hrest]
  -- the first colon is the one behind the level, whatever colons there are in the message
  rw [List.takeWhile_append_of_pos hname, List.takeWhile_cons_of_neg (by decide), List.append_nil,
    List.dropWhile_append_of_pos hname, List.dropWhile_cons_of_neg (by decide)]
  exact congrArg _ List.dropLast_concat

theorem guess?_text (r : Record) : guess? r.text = some r := by
  have hvcpu : UInt32.ofNat (numeral 10 (Nat.toDigits 10 r.vcpu.toNat)) = r.vcpu := by
    rw [Text.numeral_toDigits (by decide) (by decide), UInt32.ofNat_toNat]
  unfold guess?
  simp only [parts_text, String.ofList_toList, Level.ofName?_name, hvcpu]
  rfl

/-- **A line is read as the record it was written for**, and no other text is read as that
record. -/
theorem ofText?_eq_some_iff {text : String} {r : Record} :
    ofText? text = some r ↔ text = r.text := by
  unfold ofText?
  rw [Option.filter_eq_some_iff, decide_eq_true_eq]
  constructor
  · exact fun h => h.2.symm
  · rintro rfl
    exact ⟨guess?_text r, rfl⟩

theorem text_inj {r r' : Record} : r.text = r'.text ↔ r = r' := by
  constructor
  · intro h
    have hown : ofText? r.text = some r := ofText?_eq_some_iff.mpr rfl
    have hother : ofText? r.text = some r' := ofText?_eq_some_iff.mpr h
    exact Option.some.inj (hown.symm.trans hother)
  · exact congrArg text

/-! ## On a serial port -/

open Serial (Port LineStatus Output Traffic encode decode)

/-- The record that some bytes were sent for. -/
def ofBytes? (bytes : List UInt8) : Option Record :=
  (decode bytes).bind ofText?

theorem ofBytes?_encode_text (r : Record) : ofBytes? (encode r.text) = some r := by
  unfold ofBytes?
  rw [Serial.decode_encode, Option.bind_some]
  exact ofText?_eq_some_iff.mpr rfl

/-- The bytes that reach a serial port are those of the whole line, though it is sent in pieces. -/
theorem bytes_of_pieces (r : Record) {line : LineStatus} {p : Port} {wait : Nat}
    {parts : List (List Serial.PortAccess)}
    (h : Output.accessesAll line wait (r.pieces.map fun piece => .send p (encode piece))
      = some parts) :
    (Traffic.ofAccesses parts.flatten).sent.map (·.byte) = encode r.text := by
  have hsend : Serial.send line p wait (encode r.text) = some parts.flatten := by
    unfold text
    rw [← Serial.flatten_accessesAll_send, h]
    rfl
  obtain ⟨handovers, hall⟩ := Serial.send_handedOver hsend
  have hsorted := Serial.sort_handovers p handovers []
  rw [List.append_nil, ← hall.accesses] at hsorted
  unfold Traffic.ofAccesses
  rw [hsorted, ← hall.bytes]
  simp [Traffic.sort]

theorem encode_text_inj {r r' : Record} : encode r.text = encode r'.text ↔ r = r' := by
  constructor
  · exact fun h => text_inj.mp (Serial.encode_injective h)
  · rintro rfl
    rfl

/--
**A line of the log identifies its record.** A sink without a bound takes all of it, and the number,
the level and the message are read back from it, whatever the message is. No other text is read as
that record, so no two records have the same line. Sent in pieces on a serial port, on whatever line,
it makes bytes that the record can be read back from as well, and no other record makes those.
-/
theorem line_identifies_record (r : Record) (held : String) :
    r.writeTo { text := held } = .complete (held ++ r.text)
      ∧ (∀ text, ofText? text = some r ↔ text = r.text)
      ∧ (∀ r' : Record, r'.writeTo { text := held } = r.writeTo { text := held } ↔ r' = r)
      ∧ (∀ (line : LineStatus) (p : Port) (wait : Nat) (parts : List (List Serial.PortAccess)),
        Output.accessesAll line wait (r.pieces.map fun piece => .send p (encode piece)) = some parts →
          ofBytes? ((Traffic.ofAccesses parts.flatten).sent.map (·.byte)) = some r)
      ∧ ∀ r' : Record, encode r'.text = encode r.text ↔ r' = r := by
  have hwrite : ∀ r : Record, r.writeTo { text := held } = .complete (held ++ r.text) := fun r =>
    (r.writeTo_eq _).trans (Text.Sink.write_unbounded held r.pieces)
  refine ⟨hwrite r, fun _ => ofText?_eq_some_iff, fun r' => ?_, fun line p wait parts h => ?_,
    fun r' => encode_text_inj⟩
  · rw [hwrite, hwrite, Text.Delivery.complete.injEq, String.append_right_inj, text_inj]
  · rw [r.bytes_of_pieces h]
    exact r.ofBytes?_encode_text

/-- The message goes on like a number and a level, breaks the line twice and has another line in it.
The serial port is busy at first, every time. -/
theorem line_identifies_record_in_disguise :
    let r : Record := ⟨12, .warn, "7 ERROR: \r\nvcpu-3 INFO: é\n"⟩
    let line : LineStatus := ⟨fun _ => [0x00, 0x20]⟩
    ∃ parts,
      Output.accessesAll line 0 (r.pieces.map fun piece => .send .com1 (encode piece)) = some parts
        ∧ ofText? "vcpu-12 WARN: 7 ERROR: \r\nvcpu-3 INFO: é\n\n" = some r
        ∧ ofBytes? ((Traffic.ofAccesses parts.flatten).sent.map (·.byte)) = some r := by
  intro r line
  have ends : ∀ n, line.Ends n := fun n => ⟨0x20, by simp [line], by decide⟩
  obtain ⟨parts, -, hparts, -, -⟩ :=
    Serial.send_pieces_handedOver .com1 r.pieces fun n _ => ends (0 + n)
  obtain ⟨-, htext, -, hbytes, -⟩ := line_identifies_record r ""
  exact ⟨parts, hparts, (htext _).mpr (by decide), hbytes line .com1 0 parts hparts⟩

end Record

end GuestExit
