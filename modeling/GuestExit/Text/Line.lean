/-!
# Lines of a text

A line ends at a line feed, which is not part of it. Text behind the last line
feed is a line too, unless it is empty, so a text that ends in a line feed has as
many lines as line feeds.
-/

namespace GuestExit.Text

/-- Puts `c` in front of the first line, or opens a line if `c` is a line feed. -/
def prependToLines (c : Char) (lines : List (List Char)) : List (List Char) :=
  if c = '\n' then [] :: lines
  else match lines with
    | [] => [[c]]
    | line :: rest => (c :: line) :: rest

/-- The lines of `text`, in order. -/
def linesOf (text : String) : List String :=
  (text.toList.foldr prependToLines []).map String.ofList

example : linesOf "a\n\nbc\n" = ["a", "", "bc"] := by decide

example : linesOf "" = [] ∧ linesOf "a\nb" = ["a", "b"] := by decide

end GuestExit.Text
