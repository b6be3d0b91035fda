import Phrasebook.Plural.Code
import Phrasebook.Plural.Evaluation
import Phrasebook.Plural.Reader

namespace Phrasebook.Plural

/-!
# Plural rules

A plural rule is the well-typed expression of one locale together with the number of its plural
forms. A boolean expression counts as a rule and selects form one where it holds and form zero
where it does not.
-/

/-- Why a source text is no plural rule. -/
inductive RuleError where
  | unreadable (error : ReadError)
  | illTyped (error : TypeError)
  deriving Repr, DecidableEq

namespace RuleError

/-- The offset of an error in the source text. -/
def offset :
    RuleError →
    Nat
  | .unreadable error => error.offset
  | .illTyped error => error.offset

/-- The message of an error, without its place. -/
def message :
    RuleError →
    String
  | .unreadable error => error.fault.message
  | .illTyped error => error.fault.message

/-- An error with its kind and its place. -/
def display
    (error : RuleError) :
    String :=
  let kind :=
    match error with
    | .unreadable _ => "parse"
    | .illTyped _ => "semantic"
  kind ++ " error at offset " ++ toString error.offset ++ ": " ++ error.message

end RuleError

/-- The plural rule of a locale. -/
structure Rule where
  locale : String
  forms : Nat
  source : String
  expression : Expression
  type : ValueType
  deriving Repr, DecidableEq

namespace Rule

/-- The rule that a source text states for a locale with a number of plural forms. -/
def compile
    (locale : String)
    (forms : Nat)
    (source : String) :
    Except RuleError Rule :=
  match Expression.read source with
  | .error error => .error (.unreadable error)
  | .ok expression =>
      match expression.typeOf with
      | .error error => .error (.illTyped error)
      | .ok type => .ok ⟨locale, forms, source, expression, type⟩

/-- Whether a rule depends on the quantity. -/
def mentionsQuantity
    (rule : Rule) :
    Bool :=
  rule.expression.mentionsQuantity

/-- The index that a rule computes for a quantity, in range or not. -/
def evaluate
    (rule : Rule)
    (quantity : Int64) :
    Int64 :=
  (rule.expression.valueAt quantity).toInteger

/-- The plural form of a quantity, if the rule stays in range there. -/
def formIndex?
    (rule : Rule)
    (quantity : Int64) :
    Option Nat :=
  let index := (rule.evaluate quantity).toInt
  if 0 ≤ index ∧ index < rule.forms then
    some index.toNat
  else
    none

/-- The quantities at which rules are probed, in order. -/
def sampleQuantities :
    List Int64 :=
  (List.range 1117).map (fun position : Nat => Int64.ofInt ((position : Int) - 16)) ++
    [10000, 1000000, Int64.maxValue, Int64.minValue]

/-- Whether an index is negative or, both taken as unsigned words, not below the number of plural
forms. -/
def isOutOfRange
    (rule : Rule)
    (index : Int64) :
    Bool :=
  index < 0 || UInt64.ofNat rule.forms ≤ index.toUInt64

/-- The first probed quantity for which the index is not a plural form, and that index. -/
def firstOutOfRange?
    (rule : Rule) :
    Option (Int64 × Int64) :=
  (sampleQuantities.map fun quantity => (quantity, rule.evaluate quantity)).find?
    fun (_, index) => rule.isOutOfRange index

/-- The rule as the body of a generated function from the quantity to the index. -/
def code
    (rule : Rule) :
    String :=
  match rule.type with
  | .boolean =>
      "if " ++ rule.expression.code false ++ " \x7b 1 \x7d else \x7b 0 \x7d"
  | .integer => rule.expression.code false

end Rule

end Phrasebook.Plural
