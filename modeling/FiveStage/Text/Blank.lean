/-!
# Blanks, words and lines

A blank is a character with the white-space property of the character standard. Words are the
longest pieces without blanks; a line ends at a line feed, and a carriage return right before the
line feed belongs to the line's end.
-/

namespace FiveStage.Text

/-- Whether a character is white space in the sense of the character standard. -/
def isBlank (c : Char) : Bool :=
  let n := c.toNat
  (9 ≤ n && n ≤ 13) || n == 0x20 || n == 0x85 || n == 0xa0 || n == 0x1680 ||
    (0x2000 ≤ n && n ≤ 0x200a) || n == 0x2028 || n == 0x2029 || n == 0x202f || n == 0x205f ||
    n == 0x3000

/-- Cuts a text at each character with the property; there is one piece more than there are cuts. -/
def pieces (cut : Char → Bool) : List Char → List (List Char)
  | [] => [[]]
  | c :: rest =>
    if cut c then [] :: pieces cut rest
    else
      match pieces cut rest with
      | [] => [[c]]
      | piece :: more => (c :: piece) :: more

/-- The longest pieces without blanks. -/
def words (text : List Char) : List String :=
  ((pieces isBlank text).filter fun piece => !piece.isEmpty).map String.ofList

/-- A line without the carriage return in front of its line feed. -/
def dropReturn (line : List Char) : List Char :=
  if line.getLast? = some '\r' then line.dropLast else line

/-- The lines of a text. What follows the last line feed is a line only if it is not empty, and
keeps a carriage return at its end. -/
def lines (text : String) : List (List Char) :=
  let all := pieces (· == '\n') text.toList
  let last := all.getLastD []
  all.dropLast.map dropReturn ++ if last.isEmpty then [] else [last]

end FiveStage.Text
