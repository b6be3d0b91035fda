namespace Phrasebook.Plural

/-!
# Plural expressions

A plural expression computes the index of a plural form from a quantity, a 64-bit integer. Every
node keeps the offset, in characters of the source text, of its first token that is not an opening
parenthesis.
-/

/-- The operators that stand between two operands. -/
inductive BinaryOperator where
  | or
  | and
  | equal
  | notEqual
  | less
  | lessEqual
  | greater
  | greaterEqual
  | remainder
  deriving Repr, DecidableEq

namespace BinaryOperator

/-- The spelling of an operator. -/
def spelling :
    BinaryOperator →
    String
  | .or => "||"
  | .and => "&&"
  | .equal => "=="
  | .notEqual => "!="
  | .less => "<"
  | .lessEqual => "<="
  | .greater => ">"
  | .greaterEqual => ">="
  | .remainder => "%"

/-- The level at which an operator binds; the lowest level binds tightest. -/
def level :
    BinaryOperator →
    Nat
  | .remainder => 1
  | .less => 2
  | .lessEqual => 2
  | .greater => 2
  | .greaterEqual => 2
  | .equal => 3
  | .notEqual => 3
  | .and => 4
  | .or => 5

end BinaryOperator

/-- The level of the operator that binds loosest. -/
def loosestLevel :
    Nat :=
  5

/-- A plural expression. -/
inductive Expression where
  | variable (offset : Nat) (name : String)
  | literal (offset : Nat) (value : Int64)
  | negation (offset : Nat) (operand : Expression)
  | binary (offset : Nat) (operator : BinaryOperator) (left right : Expression)
  | conditional (offset : Nat) (condition whenTrue whenFalse : Expression)
  deriving Repr, DecidableEq

namespace Expression

/-- Where an expression starts in its source text. -/
def offset :
    Expression →
    Nat
  | .variable offset _ => offset
  | .literal offset _ => offset
  | .negation offset _ => offset
  | .binary offset _ _ _ => offset
  | .conditional offset _ _ _ => offset

/-- Whether an expression mentions the quantity. -/
def mentionsQuantity :
    Expression →
    Bool
  | .variable _ _ => true
  | .literal _ _ => false
  | .negation _ operand => operand.mentionsQuantity
  | .binary _ _ left right => left.mentionsQuantity || right.mentionsQuantity
  | .conditional _ condition whenTrue whenFalse =>
      condition.mentionsQuantity || whenTrue.mentionsQuantity || whenFalse.mentionsQuantity

/-- Whether an expression is an integer literal. -/
def isLiteral :
    Expression →
    Bool
  | .literal _ _ => true
  | _ => false

end Expression

end Phrasebook.Plural
