import GuestExit.Serial.Encoding

/-!
# Reading lines off the wire

What is sent for a text can be read back: drop each carriage return that stands directly in
front of a line feed, and decode what remains (`decode_encode`). A text may hold carriage
returns of its own, also in front of its line feeds. They are not lost, for the encoding puts
one more behind them, and only one is dropped for each line feed. So two texts are never sent
alike (`encode_injective`).
-/

namespace GuestExit.Serial

/-- Drops each carriage return that stands directly in front of a line feed. -/
def strip : List UInt8 → List UInt8
  | [] => []
  | byte :: rest =>
    if byte = 0x0D ∧ rest.head? = some 0x0A then strip rest else byte :: strip rest

/-- The text that some bytes were sent for, if there is one. -/
def decode (bytes : List UInt8) : Option String :=
  String.fromUTF8? (strip bytes).toByteArray

/-- A line feed never comes first on the wire. -/
theorem head_flatMap_encodeByte (bytes : List UInt8) :
    (bytes.flatMap encodeByte).head? ≠ some 0x0A := by
  cases bytes with
  | nil => simp
  | cons b rest =>
    unfold encodeByte
    by_cases h : b = 0x0A <;> simp [h]

/-- **The carriage returns that were put in are dropped again**, and no others. -/
theorem strip_flatMap_encodeByte (bytes : List UInt8) :
    strip (bytes.flatMap encodeByte) = bytes := by
  induction bytes with
  | nil => rfl
  | cons b rest ih =>
    rw [List.flatMap_cons]
    by_cases h : b = 0x0A
    · subst h
      -- the first byte is the carriage return put in, and the line feed comes next
      show strip (0x0D :: 0x0A :: rest.flatMap encodeByte) = _
      simp [strip, ih]
    · have hb : encodeByte b = [b] := if_neg h
      have hnext := head_flatMap_encodeByte rest
      rw [hb, List.singleton_append, strip, if_neg fun hc => hnext hc.2, ih]

theorem toByteArray_utf8 (text : String) : (utf8 text).toByteArray = text.toByteArray :=
  String.utf8Encode_toList

/-- **A text is read back from the bytes sent for it.** -/
theorem decode_encode (text : String) : decode (encode text) = some text := by
  unfold decode encode
  rw [strip_flatMap_encodeByte, toByteArray_utf8]
  exact dif_pos text.isValidUTF8

theorem encode_injective {s t : String} (h : encode s = encode t) : s = t := by
  have hdecoded := congrArg decode h
  rw [decode_encode, decode_encode] at hdecoded
  exact Option.some.inj hdecoded

example : decode (encode "a\r\n\r\rb\n") = some "a\r\n\r\rb\n" := by cbv

end GuestExit.Serial
