/-!
# Numerals

The three ways a number is written in the text this library produces: hexadecimal
as short as possible, hexadecimal padded to the sixteen digits of a machine word,
and decimal moved to the right of a column. All hexadecimal is in lower case and
stands behind `0x`.

A number is not handed over whole. The `0x` comes first, then each character that
fills the number up, one at a time, and then the digits.
-/

namespace GuestExit.Text

/-- `n` in hexadecimal without leading zeros. Zero is a single `0`. -/
def hex (n : Nat) : String :=
  "0x" ++ String.ofList (Nat.toDigits 16 n)

/-- `n` in hexadecimal with leading zeros up to sixteen digits. -/
def hexWord (n : Nat) : String :=
  "0x" ++ String.ofList ((Nat.toDigits 16 n).leftpad 16 '0')

/-- `n` in decimal, behind as many spaces as fill a column of `width` characters. -/
def column (width n : Nat) : String :=
  String.ofList ((Nat.toDigits 10 n).leftpad width ' ')

/-- The pieces in which digits are filled up with `pad` to `width` characters. -/
def fillPieces (pad : Char) (width : Nat) (digits : List Char) : List String :=
  List.replicate (width - digits.length) (String.singleton pad) ++ [String.ofList digits]

/-- The pieces of `hex`. -/
def hexPieces (n : Nat) : List String :=
  ["0x", String.ofList (Nat.toDigits 16 n)]

/-- The pieces of `hexWord`. -/
def hexWordPieces (n : Nat) : List String :=
  "0x" :: fillPieces '0' 16 (Nat.toDigits 16 n)

/-- The pieces of `column`. -/
def columnPieces (width n : Nat) : List String :=
  fillPieces ' ' width (Nat.toDigits 10 n)

theorem join_fillPieces (pad : Char) (width : Nat) (digits : List Char) :
    String.join (fillPieces pad width digits) = String.ofList (digits.leftpad width pad) := by
  unfold fillPieces List.leftpad
  induction width - digits.length with
  | zero => simp
  | succ n ih =>
    rw [List.replicate_succ, List.replicate_succ, List.cons_append, List.cons_append,
      String.join_cons, ih, String.ofList_cons]

@[simp] theorem join_hexPieces (n : Nat) : String.join (hexPieces n) = hex n := by
  simp [hexPieces, hex]

@[simp] theorem join_hexWordPieces (n : Nat) : String.join (hexWordPieces n) = hexWord n := by
  rw [hexWordPieces, String.join_cons, join_fillPieces, hexWord]

@[simp] theorem join_columnPieces (width n : Nat) :
    String.join (columnPieces width n) = column width n :=
  join_fillPieces ' ' width _

example : hex 0xC8 = "0xc8" ∧ hex 0 = "0x0" := by decide

example : hexWord 0x1AD000 = "0x00000000001ad000" := by decide

example : column 3 34 = " 34" ∧ column 3 200 = "200" := by decide

example : columnPieces 3 5 = [" ", " ", "5"] ∧ columnPieces 3 200 = ["200"] := by decide

end GuestExit.Text
