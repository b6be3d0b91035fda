import Phrasebook.Plural.Expression
import Phrasebook.Text.Decimal
import Phrasebook.Text.Whitespace

namespace Phrasebook.Plural

/-!
# Tokens of plural expressions

White space separates tokens and is otherwise ignored. Of two symbols that start alike the longer
one is taken. A text has tokens only if all of it can be read: a character that starts no token
and a literal beyond 64 bits are reported at their place, the first of them in the text.
-/

/-- The symbols of plural expressions. -/
inductive Symbol where
  | question
  | colon
  | not
  | openParenthesis
  | closeParenthesis
  | binary (operator : BinaryOperator)
  deriving Repr, DecidableEq

namespace Symbol

/-- The spelling of a symbol. -/
def spelling :
    Symbol →
    String
  | .question => "?"
  | .colon => ":"
  | .not => "!"
  | .openParenthesis => "("
  | .closeParenthesis => ")"
  | .binary operator => operator.spelling

end Symbol

/-- What a token says, apart from its place. -/
inductive Lexeme where
  | number (value : Int64)
  | name (text : String)
  | mark (symbol : Symbol)
  deriving Repr, DecidableEq

namespace Lexeme

/-- A lexeme as messages show it. -/
def shown :
    Lexeme →
    String
  | .number value => "`" ++ toString value.toInt ++ "`"
  | .name text => "`" ++ text ++ "`"
  | .mark symbol => "`" ++ symbol.spelling ++ "`"

end Lexeme

/-- A lexeme and the offset of its first character. -/
structure Token where
  lexeme : Lexeme
  offset : Nat
  deriving Repr, DecidableEq

/-- What an expression may be expected to go on with. -/
inductive Expectation where
  | expression
  | symbol (symbol : Symbol)
  | finish
  deriving Repr, DecidableEq

/-- Why a text is no plural expression. -/
inductive ReadFault where
  | unknownCharacter (character : Char)
  | literalTooLarge (digits : String)
  | mismatch (expectation : Expectation) (found : Option Lexeme)
  deriving Repr, DecidableEq

namespace ReadFault

/-- What was found, as messages show it. -/
def shownFinding :
    Option Lexeme →
    String
  | some lexeme => lexeme.shown
  | none => "end of expression"

/-- The message of a fault. -/
def message :
    ReadFault →
    String
  | .unknownCharacter character =>
      "unexpected character `" ++ String.singleton character ++ "`"
  | .literalTooLarge digits =>
      "integer literal `" ++ digits ++ "` is too large"
  | .mismatch .expression found =>
      "expected expression, found " ++ shownFinding found
  | .mismatch (.symbol symbol) found =>
      "expected `" ++ symbol.spelling ++ "`, found " ++ shownFinding found
  | .mismatch .finish found =>
      "unexpected " ++ shownFinding found ++ " after expression"

end ReadFault

/-- A fault and where it was met. -/
structure ReadError where
  offset : Nat
  fault : ReadFault
  deriving Repr, DecidableEq

/-- The symbol at the start of a text, and how many characters after the first it takes. -/
def leadingSymbol? :
    List Char →
    Option (Symbol × Nat)
  | '&' :: '&' :: _ => some (.binary .and, 1)
  | '|' :: '|' :: _ => some (.binary .or, 1)
  | '=' :: '=' :: _ => some (.binary .equal, 1)
  | '!' :: '=' :: _ => some (.binary .notEqual, 1)
  | '<' :: '=' :: _ => some (.binary .lessEqual, 1)
  | '>' :: '=' :: _ => some (.binary .greaterEqual, 1)
  | '<' :: _ => some (.binary .less, 0)
  | '>' :: _ => some (.binary .greater, 0)
  | '!' :: _ => some (.not, 0)
  | '?' :: _ => some (.question, 0)
  | ':' :: _ => some (.colon, 0)
  | '%' :: _ => some (.binary .remainder, 0)
  | '(' :: _ => some (.openParenthesis, 0)
  | ')' :: _ => some (.closeParenthesis, 0)
  | _ => none

/-- The largest integer literal. -/
def largestLiteral :
    Nat :=
  9223372036854775807

/-- Whether a character may stand in a name after its first. -/
def isNamePart
    (character : Char) :
    Bool :=
  character.isAlphanum || character == '_'

/-- Whether a character may lead a name. -/
def isNameLead
    (character : Char) :
    Bool :=
  character.isAlpha || character == '_'

/-- Dropping characters from the front never makes a text longer. -/
theorem length_dropWhile_le
    (condition : Char → Bool)
    (text : List Char) :
    (text.dropWhile condition).length ≤ text.length :=
  (List.dropWhile_sublist condition).length_le

/-- The tokens of a text that starts at an offset. -/
def tokensFrom
    (offset : Nat) :
    List Char →
    Except ReadError (List Token)
  | [] => .ok []
  | character :: text =>
      if Text.isWhitespace character then
        tokensFrom (offset + 1) text
      else
        match leadingSymbol? (character :: text) with
        | some (symbol, further) =>
            (tokensFrom (offset + 1 + further) (text.drop further)).map
              (⟨.mark symbol, offset⟩ :: ·)
        | none =>
            if character.isDigit then
              let digits := character :: text.takeWhile Char.isDigit
              if Text.decimalValue digits ≤ largestLiteral then
                (tokensFrom (offset + digits.length) (text.dropWhile Char.isDigit)).map
                  (⟨.number (Int64.ofNat (Text.decimalValue digits)), offset⟩ :: ·)
              else
                .error ⟨offset, .literalTooLarge (String.ofList digits)⟩
            else if isNameLead character then
              let name := character :: text.takeWhile isNamePart
              (tokensFrom (offset + name.length) (text.dropWhile isNamePart)).map
                (⟨.name (String.ofList name), offset⟩ :: ·)
            else
              .error ⟨offset, .unknownCharacter character⟩
  termination_by text => text.length
  decreasing_by
    · simp
    · simp only [List.length_drop, List.length_cons]
      omega
    · exact Nat.lt_succ_of_le (length_dropWhile_le _ _)
    · exact Nat.lt_succ_of_le (length_dropWhile_le _ _)

/-- The tokens of a source text. -/
def tokens
    (source : List Char) :
    Except ReadError (List Token) :=
  tokensFrom 0 source

end Phrasebook.Plural
