import ScorePage.Text.Blank

/-! Lines of a text and their fields. A line ends at a line feed; one carriage return right before
the line feed belongs to the ending. Text after the last line feed is a line when there is any. -/
namespace ScorePage.Text

def dropReturn (line : List Char) : List Char :=
  if line.getLast? = some '\r' then line.dropLast else line

def linesOfParts : List (List Char) → List (List Char)
  | [] => []
  | [last] => if last.isEmpty then [] else [last]
  | part :: rest => dropReturn part :: linesOfParts rest

def lines (text : List Char) : List (List Char) := linesOfParts (text.splitOn '\n')

def isLineEnding (c : Char) : Bool := c == '\r' || c == '\n'

def tabFields (line : List Char) : List (List Char) := (dropEndWhile isLineEnding line).splitOn '\t'

end ScorePage.Text
