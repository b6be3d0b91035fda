import Phrasebook.Plural.Expression

namespace Phrasebook.Plural

/-!
# Types of plural expressions

An expression is an integer or a boolean. Logical operators take booleans, order comparisons and
remainders take integers, equality takes two operands of one type, and so do the branches of a
conditional. The literal zero is no divisor.
-/

/-- The types of plural expressions. -/
inductive ValueType where
  | integer
  | boolean
  deriving Repr, DecidableEq

namespace ValueType

/-- The name of a type in messages. -/
def displayName :
    ValueType →
    String
  | .integer => "integer"
  | .boolean => "boolean"

end ValueType

/-- The place of an expression inside the one that constrains its type. -/
inductive Role where
  | operandOfNot
  | operand (operator : BinaryOperator)
  | rightOperand (operator : BinaryOperator)
  | condition
  | branch
  deriving Repr, DecidableEq

namespace Role

/-- The description of a place in messages. -/
def description :
    Role →
    String
  | .operandOfNot => "operand of `!`"
  | .operand operator => "operand of `" ++ operator.spelling ++ "`"
  | .rightOperand operator => "right operand of `" ++ operator.spelling ++ "`"
  | .condition => "condition of `?:`"
  | .branch => "both branches of `?:`"

end Role

/-- Why an expression has no type. -/
inductive TypeFault where
  | unknownVariable (name : String)
  | unexpectedType (role : Role) (expected found : ValueType)
  | zeroDivisor
  deriving Repr, DecidableEq

namespace TypeFault

/-- The message of a fault. -/
def message :
    TypeFault →
    String
  | .unknownVariable name =>
      "unknown variable `" ++ name ++ "`, expected `n`"
  | .unexpectedType role expected found =>
      role.description ++ " must be " ++ expected.displayName ++
        ", found " ++ found.displayName
  | .zeroDivisor => "modulo by zero"

end TypeFault

/-- A fault and the offset of the expression that has it. -/
structure TypeError where
  offset : Nat
  fault : TypeFault
  deriving Repr, DecidableEq

/-- The names of the quantity. -/
def quantityNames :
    List String :=
  ["n", "value"]

/-- Requires that a subexpression, of which the type is known, has a certain type. -/
def requireType
    (role : Role)
    (expected : ValueType)
    (offset : Nat)
    (found : ValueType) :
    Except TypeError Unit :=
  if found = expected then
    .ok ()
  else
    .error ⟨offset, .unexpectedType role expected found⟩

namespace Expression

/-- Whether an expression is the literal zero. -/
def isZeroLiteral :
    Expression →
    Bool
  | .literal _ value => value == 0
  | _ => false

/-- The type of an expression; operands are examined from left to right. -/
def typeOf :
    Expression →
    Except TypeError ValueType
  | .variable offset name =>
      if quantityNames.contains name then
        .ok .integer
      else
        .error ⟨offset, .unknownVariable name⟩
  | .literal _ _ => .ok .integer
  | .negation _ operand => do
      requireType .operandOfNot .boolean operand.offset (← operand.typeOf)
      return .boolean
  | .binary _ operator left right =>
      match operator with
      | .or | .and => do
          requireType (.operand operator) .boolean left.offset (← left.typeOf)
          requireType (.operand operator) .boolean right.offset (← right.typeOf)
          return .boolean
      | .equal | .notEqual => do
          let leftType ← left.typeOf
          requireType (.rightOperand operator) leftType right.offset (← right.typeOf)
          return .boolean
      | .less | .lessEqual | .greater | .greaterEqual => do
          requireType (.operand operator) .integer left.offset (← left.typeOf)
          requireType (.operand operator) .integer right.offset (← right.typeOf)
          return .boolean
      | .remainder => do
          requireType (.operand operator) .integer left.offset (← left.typeOf)
          requireType (.operand operator) .integer right.offset (← right.typeOf)
          if right.isZeroLiteral then
            .error ⟨right.offset, .zeroDivisor⟩
          else
            return .integer
  | .conditional _ condition whenTrue whenFalse => do
      requireType .condition .boolean condition.offset (← condition.typeOf)
      let branchType ← whenTrue.typeOf
      requireType .branch branchType whenFalse.offset (← whenFalse.typeOf)
      return branchType

end Expression

end Phrasebook.Plural
