namespace Phrasebook.Text

/-!
# Physical lines

A line ends at a line feed, and one carriage return directly before that line feed belongs to the
ending. A carriage return anywhere else is a character of its line, and a text that ends with a
line feed has no further, empty line.
-/

/-- A line without the carriage return that ends it, if there is one. -/
def dropFinalReturn
    (line : List Char) :
    List Char :=
  if line.getLast? = some '\r' then
    line.dropLast
  else
    line

/-- The physical lines among the pieces between the line feeds of a text: each piece but the last
was ended by a line feed, and an empty last piece is no line. -/
def endedLines :
    List (List Char) →
    List (List Char)
  | [] => []
  | [last] =>
      if last.isEmpty then
        []
      else
        [last]
  | line :: next :: rest =>
      dropFinalReturn line :: endedLines (next :: rest)

/-- The physical lines of a text, without their endings. -/
def physicalLines
    (text : List Char) :
    List (List Char) :=
  endedLines (text.splitOnP (· == '\n'))

end Phrasebook.Text
