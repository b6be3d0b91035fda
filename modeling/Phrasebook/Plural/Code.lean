import Phrasebook.Plural.Typing

namespace Phrasebook.Plural

/-!
# Code of plural expressions

An expression written in the generated language, over a 64-bit quantity called `n`. Every operand
that is neither a name nor a literal stands in parentheses. A remainder whose divisor is no literal
is written as a checked call, because such a divisor may be zero.
-/

namespace Expression

/-- Text in parentheses, if it needs them. -/
def parenthesizedIf
    (needed : Bool)
    (text : String) :
    String :=
  if needed then
    "(" ++ text ++ ")"
  else
    text

/-- The code of an expression, and of an operand if `nested`. -/
def code
    (nested : Bool) :
    Expression →
    String
  | .variable _ _ => "n"
  | .literal _ value => toString value.toInt
  | .negation _ operand =>
      parenthesizedIf nested ("!" ++ operand.code true)
  | .binary _ operator left right =>
      if operator = .remainder && !right.isLiteral then
        parenthesizedIf nested
          ("i64::checked_rem(" ++ left.code false ++ ", " ++ right.code false ++
            ").unwrap_or(0)")
      else
        parenthesizedIf nested
          (left.code true ++ " " ++ operator.spelling ++ " " ++ right.code true)
  | .conditional _ condition whenTrue whenFalse =>
      parenthesizedIf nested
        ("if " ++ condition.code false ++ " \x7b " ++ whenTrue.code false ++
          " \x7d else \x7b " ++ whenFalse.code false ++ " \x7d")

end Expression

end Phrasebook.Plural
