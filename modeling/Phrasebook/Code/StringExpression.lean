import Phrasebook.Placeholder.ArgumentTable
import Phrasebook.Text.Quoted

namespace Phrasebook.Code

/-!
# String expressions

The pieces of a message as an expression that computes a string. Without arguments it converts a
string literal. With arguments it formats a template, in which an argument stands between braces
under its name and a brace of the text is written twice.
-/

/-- The text of a piece, without arguments. -/
def plainText :
    Placeholder.Piece →
    String
  | .text text => text
  | .argument _ => ""

/-- Whether a piece is an argument. -/
def isArgument :
    Placeholder.Piece →
    Bool
  | .text _ => false
  | .argument _ => true

/-- A character of the text of a template. -/
def templateCharacter
    (character : Char) :
    List Char :=
  if character = '{' then
    ['{', '{']
  else if character = '}' then
    ['}', '}']
  else
    [character]

/-- The name of the parameter for an argument. -/
def parameterName
    (table : Placeholder.ArgumentTable)
    (index : Nat) :
    String :=
  match table.arguments.find? (·.index == index) with
  | some argument => argument.name
  | none => ""

/-- A piece in a template. -/
def templatePiece
    (table : Placeholder.ArgumentTable) :
    Placeholder.Piece →
    List Char
  | .text text => text.toList.flatMap templateCharacter
  | .argument index => '{' :: (parameterName table index).toList ++ ['}']

/-- An expression that computes the string of some pieces. -/
def stringExpression
    (table : Placeholder.ArgumentTable)
    (pieces : List Placeholder.Piece) :
    String :=
  if pieces.any isArgument then
    "format!(" ++ String.ofList (Text.quoted (pieces.flatMap (templatePiece table))) ++ ")"
  else
    "String::from(" ++ Text.quotedString (String.join (pieces.map plainText)) ++ ")"

end Phrasebook.Code
