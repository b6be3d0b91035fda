import Phrasebook.Plural.Typing

namespace Phrasebook.Plural

/-!
# Evaluation of plural expressions

Integers are 64-bit words. The remainder has the sign of the dividend, and a remainder by zero is
zero. Where an integer stands for a boolean it is true unless zero, and a boolean stands for one
or zero.
-/

/-- The value of a plural expression. -/
inductive Value where
  | integer (value : Int64)
  | boolean (value : Bool)
  deriving Repr, DecidableEq

namespace Value

/-- The type of a value. -/
def type :
    Value →
    ValueType
  | .integer _ => .integer
  | .boolean _ => .boolean

/-- A value as an integer. -/
def toInteger :
    Value →
    Int64
  | .integer value => value
  | .boolean true => 1
  | .boolean false => 0

/-- A value as a truth value. -/
def toBoolean :
    Value →
    Bool
  | .integer value => value != 0
  | .boolean value => value

end Value

/-- The remainder of a division, zero where there is no division. -/
def totalRemainder
    (dividend divisor : Int64) :
    Int64 :=
  if divisor = 0 then
    0
  else
    dividend % divisor

namespace BinaryOperator

/-- The value of an operator on the values of its operands. -/
def apply
    (operator : BinaryOperator)
    (left right : Value) :
    Value :=
  match operator with
  | .or => .boolean (left.toBoolean || right.toBoolean)
  | .and => .boolean (left.toBoolean && right.toBoolean)
  | .equal => .boolean (left == right)
  | .notEqual => .boolean (left != right)
  | .less => .boolean (left.toInteger < right.toInteger)
  | .lessEqual => .boolean (left.toInteger ≤ right.toInteger)
  | .greater => .boolean (right.toInteger < left.toInteger)
  | .greaterEqual => .boolean (right.toInteger ≤ left.toInteger)
  | .remainder => .integer (totalRemainder left.toInteger right.toInteger)

end BinaryOperator

namespace Expression

/-- The value of an expression at a quantity. -/
def valueAt
    (quantity : Int64) :
    Expression →
    Value
  | .variable _ _ => .integer quantity
  | .literal _ value => .integer value
  | .negation _ operand => .boolean (!(operand.valueAt quantity).toBoolean)
  | .binary _ operator left right =>
      operator.apply (left.valueAt quantity) (right.valueAt quantity)
  | .conditional _ condition whenTrue whenFalse =>
      if (condition.valueAt quantity).toBoolean then
        whenTrue.valueAt quantity
      else
        whenFalse.valueAt quantity

end Expression

end Phrasebook.Plural
