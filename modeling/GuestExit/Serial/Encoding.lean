import GuestExit.Text.Sink

/-!
# Lines on the wire

A text is sent as its UTF-8 bytes, with a carriage return in front of each line
feed. A wire refuses nothing, so what is written to it gets there piece by piece to the
end.
-/

namespace GuestExit.Serial

/-- Puts a carriage return in front of a line feed. -/
def encodeByte (byte : UInt8) : List UInt8 :=
  if byte = 0x0A then [0x0D, 0x0A] else [byte]

/-- The UTF-8 bytes of a text. -/
def utf8 (text : String) : List UInt8 :=
  text.toList.flatMap String.utf8EncodeChar

/-- The bytes sent for a text. -/
def encode (text : String) : List UInt8 :=
  (utf8 text).flatMap encodeByte

theorem encode_empty : encode "" = [] := by decide

/-- A text sent in pieces is sent like the whole. -/
theorem encode_append (s t : String) : encode (s ++ t) = encode s ++ encode t := by
  simp [encode, utf8]

example : encode "é\n" = [0xC3, 0xA9, 0x0D, 0x0A] := by decide

/-- The bytes that were put on a wire. -/
structure Wire where
  bytes : List UInt8 := []
  deriving DecidableEq, Repr

instance : Text.Writable Wire where
  put piece wire := .ok () ⟨wire.bytes ++ encode piece⟩

/-- The bytes that a writer puts on a wire. -/
def wired (x : Text.Writing Wire Unit) : List UInt8 :=
  match x {} with
  | .ok () wire | .error _ wire => wire.bytes

theorem putAll_wire (pieces : List String) (sent : List UInt8) :
    Text.putAll pieces (Wire.mk sent) = .ok () ⟨sent ++ encode (String.join pieces)⟩ := by
  induction pieces generalizing sent with
  | nil =>
    rw [String.join_nil, encode_empty, List.append_nil]
    rfl
  | cons piece rest ih =>
    rw [String.join_cons, encode_append, ← List.append_assoc]
    exact ih (sent ++ encode piece)

/-- What is written in pieces is sent like the whole. -/
theorem wired_putAll (pieces : List String) :
    wired (Text.putAll pieces) = encode (String.join pieces) := by
  rw [wired, putAll_wire]
  rfl

end GuestExit.Serial
