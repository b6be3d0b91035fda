namespace Phrasebook.Code

/-!
# Layout of generated code

Code is a list of lines, some of which open or close a block. The lines inside a block are indented
by four more spaces than the line that opens it, and the line that closes it stands under that
line. An empty line is not indented.
-/

/-- A line of code and what it does to the blocks around it. -/
inductive CodeLine where
  | plain (text : String)
  | opening (text : String)
  | closing (text : String)
  deriving Repr, DecidableEq

namespace CodeLine

/-- A line without text. -/
def blank :
    CodeLine :=
  .plain ""

/-- The text of a line. -/
def text :
    CodeLine →
    String
  | .plain text => text
  | .opening text => text
  | .closing text => text

/-- The number of blocks around a line, given the number before it. -/
def levelAt
    (level : Nat) :
    CodeLine →
    Nat
  | .closing _ => level - 1
  | _ => level

/-- The number of blocks around the lines that follow a line. -/
def levelAfter
    (level : Nat) :
    CodeLine →
    Nat
  | .plain _ => level
  | .opening _ => level + 1
  | .closing _ => level - 1

end CodeLine

/-- The spaces at the start of a line with a number of blocks around it. -/
def indentation
    (level : Nat) :
    String :=
  String.ofList (List.replicate (4 * level) ' ')

/-- A line with its indentation and its ending. -/
def indented
    (level : Nat)
    (text : String) :
    String :=
  if text.isEmpty then
    "\n"
  else
    indentation level ++ text ++ "\n"

/-- The text of lines with a number of blocks around the first. -/
def layoutFrom
    (level : Nat) :
    List CodeLine →
    String
  | [] => ""
  | line :: lines =>
      indented (line.levelAt level) line.text ++ layoutFrom (line.levelAfter level) lines

/-- The text of lines of code. -/
def layout
    (lines : List CodeLine) :
    String :=
  layoutFrom 0 lines

/-- A block between a line that opens it and a line that closes it. -/
def block
    (opening : String)
    (lines : List CodeLine)
    (closing : String) :
    List CodeLine :=
  .opening opening :: lines ++ [.closing closing]

end Phrasebook.Code
