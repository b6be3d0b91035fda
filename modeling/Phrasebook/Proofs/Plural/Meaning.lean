import Mathlib
import Phrasebook.Plural.Reader
import Phrasebook.Proofs.Plural.TypeRules

namespace Phrasebook.Plural

/-!
# The meaning of plural expressions

What an expression means is told over integers of any size and truth values, and neither is ever
taken for the other: an operator has a meaning on operands of its types only. A well-typed
expression has one meaning at every quantity, of the same type, and its value stands for it.
-/

/-- What a plural expression means: an integer of any size or a truth value. -/
inductive Meaning where
  | integer (value : Int)
  | boolean (value : Bool)
  deriving Repr, DecidableEq

/-- What a value stands for. -/
def Value.meaning :
    Value →
    Meaning
  | .integer value => .integer value.toInt
  | .boolean value => .boolean value

/-- The meaning of an operator on two meanings. The remainder has the sign of the dividend. -/
inductive BinaryOperator.Means :
    BinaryOperator →
    Meaning →
    Meaning →
    Meaning →
    Prop where
  | or (left right : Bool) :
      Means .or (.boolean left) (.boolean right) (.boolean (left || right))
  | and (left right : Bool) :
      Means .and (.boolean left) (.boolean right) (.boolean (left && right))
  | equalIntegers (left right : Int) :
      Means .equal (.integer left) (.integer right) (.boolean (left = right))
  | equalBooleans (left right : Bool) :
      Means .equal (.boolean left) (.boolean right) (.boolean (left = right))
  | unequalIntegers (left right : Int) :
      Means .notEqual (.integer left) (.integer right) (.boolean (left ≠ right))
  | unequalBooleans (left right : Bool) :
      Means .notEqual (.boolean left) (.boolean right) (.boolean (left ≠ right))
  | less (left right : Int) :
      Means .less (.integer left) (.integer right) (.boolean (left < right))
  | lessEqual (left right : Int) :
      Means .lessEqual (.integer left) (.integer right) (.boolean (left ≤ right))
  | greater (left right : Int) :
      Means .greater (.integer left) (.integer right) (.boolean (right < left))
  | greaterEqual (left right : Int) :
      Means .greaterEqual (.integer left) (.integer right) (.boolean (right ≤ left))
  | remainder (dividend : Int) {divisor : Int} (notZero : divisor ≠ 0) :
      Means .remainder (.integer dividend) (.integer divisor) (.integer (dividend.tmod divisor))
  | remainderByZero (dividend : Int) :
      Means .remainder (.integer dividend) (.integer 0) (.integer 0)

/-- The meaning of an expression at a quantity of any size. Of a conditional only the branch that
is taken has to mean something. -/
inductive Expression.Means
    (quantity : Int) :
    Expression →
    Meaning →
    Prop where
  | «variable» (offset : Nat) (name : String) :
      Means quantity (.variable offset name) (.integer quantity)
  | literal (offset : Nat) (value : Int64) :
      Means quantity (.literal offset value) (.integer value.toInt)
  | negation
      (offset : Nat)
      {operand : Expression}
      {holds : Bool} :
      Means quantity operand (.boolean holds) →
      Means quantity (.negation offset operand) (.boolean !holds)
  | binary
      (offset : Nat)
      {operator : BinaryOperator}
      {left right : Expression}
      {leftMeaning rightMeaning meaning : Meaning} :
      Means quantity left leftMeaning →
      Means quantity right rightMeaning →
      operator.Means leftMeaning rightMeaning meaning →
      Means quantity (.binary offset operator left right) meaning
  | whenTrue
      (offset : Nat)
      {condition whenTrue whenFalse : Expression}
      {meaning : Meaning} :
      Means quantity condition (.boolean true) →
      Means quantity whenTrue meaning →
      Means quantity (.conditional offset condition whenTrue whenFalse) meaning
  | whenFalse
      (offset : Nat)
      {condition whenTrue whenFalse : Expression}
      {meaning : Meaning} :
      Means quantity condition (.boolean false) →
      Means quantity whenFalse meaning →
      Means quantity (.conditional offset condition whenTrue whenFalse) meaning

/-! ## Uniqueness -/

theorem BinaryOperator.Means.unique
    {operator : BinaryOperator}
    {left right first second : Meaning}
    (firstMeans : operator.Means left right first)
    (secondMeans : operator.Means left right second) :
    first = second := by
  cases firstMeans with
  | remainder dividend notZero =>
      cases secondMeans with
      | remainder =>
          rfl
      | remainderByZero =>
          exact absurd rfl notZero
  | remainderByZero dividend =>
      cases secondMeans with
      | remainder _ notZero =>
          exact absurd rfl notZero
      | remainderByZero =>
          rfl
  | or | and | equalIntegers | equalBooleans | unequalIntegers | unequalBooleans | less
  | lessEqual | greater | greaterEqual =>
      cases secondMeans
      rfl

/-- An expression has no second meaning. -/
theorem Expression.Means.unique
    {quantity : Int}
    {expression : Expression}
    {first second : Meaning}
    (firstMeans : expression.Means quantity first)
    (secondMeans : expression.Means quantity second) :
    first = second := by
  induction firstMeans generalizing second with
  | «variable» offset name =>
      cases secondMeans
      rfl
  | literal offset value =>
      cases secondMeans
      rfl
  | negation offset operandMeans operandHypothesis =>
      cases secondMeans with
      | negation _ otherMeans =>
          cases operandHypothesis otherMeans
          rfl
  | binary offset leftMeans rightMeans operatorMeans leftHypothesis rightHypothesis =>
      cases secondMeans with
      | binary _ otherLeft otherRight otherOperator =>
          cases leftHypothesis otherLeft
          cases rightHypothesis otherRight
          exact operatorMeans.unique otherOperator
  | whenTrue offset conditionMeans branchMeans conditionHypothesis branchHypothesis =>
      cases secondMeans with
      | whenTrue _ _ otherBranch =>
          exact branchHypothesis otherBranch
      | whenFalse _ otherCondition _ =>
          cases conditionHypothesis otherCondition
  | whenFalse offset conditionMeans branchMeans conditionHypothesis branchHypothesis =>
      cases secondMeans with
      | whenTrue _ otherCondition _ =>
          cases conditionHypothesis otherCondition
      | whenFalse _ _ otherBranch =>
          exact branchHypothesis otherBranch

/-! ## Values -/

/-- The remainder of words is that of the integers they stand for: the one quotient that is no word
leaves the remainder zero. -/
theorem toInt_totalRemainder
    (dividend : Int64)
    {divisor : Int64}
    (notZero : divisor ≠ 0) :
    (totalRemainder dividend divisor).toInt = dividend.toInt.tmod divisor.toInt := by
  rw [totalRemainder, if_neg notZero, Int64.toInt_mod]

/-- The value of an operator on values of its types is what the operator means. -/
theorem BinaryOperator.Relates.means_apply
    {operator : BinaryOperator}
    {operandType type : ValueType}
    {left right : Value}
    (related : operator.Relates operandType type)
    (leftTyped : left.type = operandType)
    (rightTyped : right.type = operandType) :
    operator.Means left.meaning right.meaning (operator.apply left right).meaning := by
  cases related with
  | or =>
      obtain ⟨leftTruth, rfl⟩ := exists_boolean_of_type leftTyped
      obtain ⟨rightTruth, rfl⟩ := exists_boolean_of_type rightTyped
      exact .or leftTruth rightTruth
  | and =>
      obtain ⟨leftTruth, rfl⟩ := exists_boolean_of_type leftTyped
      obtain ⟨rightTruth, rfl⟩ := exists_boolean_of_type rightTyped
      exact .and leftTruth rightTruth
  | equal =>
      cases operandType with
      | integer =>
          obtain ⟨leftWord, rfl⟩ := exists_integer_of_type leftTyped
          obtain ⟨rightWord, rfl⟩ := exists_integer_of_type rightTyped
          simp only [apply, beq_eq_decide, Value.integer.injEq, ← Int64.toInt_inj]
          exact .equalIntegers leftWord.toInt rightWord.toInt
      | boolean =>
          obtain ⟨leftTruth, rfl⟩ := exists_boolean_of_type leftTyped
          obtain ⟨rightTruth, rfl⟩ := exists_boolean_of_type rightTyped
          simp only [apply, beq_eq_decide, Value.boolean.injEq]
          exact .equalBooleans leftTruth rightTruth
  | notEqual =>
      cases operandType with
      | integer =>
          obtain ⟨leftWord, rfl⟩ := exists_integer_of_type leftTyped
          obtain ⟨rightWord, rfl⟩ := exists_integer_of_type rightTyped
          simp only [apply, bne, beq_eq_decide, Value.integer.injEq, ← decide_not,
            ← Int64.toInt_inj]
          exact .unequalIntegers leftWord.toInt rightWord.toInt
      | boolean =>
          obtain ⟨leftTruth, rfl⟩ := exists_boolean_of_type leftTyped
          obtain ⟨rightTruth, rfl⟩ := exists_boolean_of_type rightTyped
          simp only [apply, bne, beq_eq_decide, Value.boolean.injEq, ← decide_not]
          exact .unequalBooleans leftTruth rightTruth
  | less =>
      obtain ⟨leftWord, rfl⟩ := exists_integer_of_type leftTyped
      obtain ⟨rightWord, rfl⟩ := exists_integer_of_type rightTyped
      simp only [apply, Value.toInteger, Int64.lt_iff_toInt_lt]
      exact .less leftWord.toInt rightWord.toInt
  | lessEqual =>
      obtain ⟨leftWord, rfl⟩ := exists_integer_of_type leftTyped
      obtain ⟨rightWord, rfl⟩ := exists_integer_of_type rightTyped
      simp only [apply, Value.toInteger, Int64.le_iff_toInt_le]
      exact .lessEqual leftWord.toInt rightWord.toInt
  | greater =>
      obtain ⟨leftWord, rfl⟩ := exists_integer_of_type leftTyped
      obtain ⟨rightWord, rfl⟩ := exists_integer_of_type rightTyped
      simp only [apply, Value.toInteger, Int64.lt_iff_toInt_lt]
      exact .greater leftWord.toInt rightWord.toInt
  | greaterEqual =>
      obtain ⟨leftWord, rfl⟩ := exists_integer_of_type leftTyped
      obtain ⟨rightWord, rfl⟩ := exists_integer_of_type rightTyped
      simp only [apply, Value.toInteger, Int64.le_iff_toInt_le]
      exact .greaterEqual leftWord.toInt rightWord.toInt
  | remainder =>
      obtain ⟨dividend, rfl⟩ := exists_integer_of_type leftTyped
      obtain ⟨divisor, rfl⟩ := exists_integer_of_type rightTyped
      by_cases isZero : divisor = 0
      · subst isZero
        exact .remainderByZero dividend.toInt
      · have notZero : divisor.toInt ≠ 0 := fun same => isZero (Int64.toInt_inj.mp same)
        -- The remainder fits a word even where the quotient does not.
        simp only [apply, Value.meaning, Value.toInteger, toInt_totalRemainder dividend isZero]
        exact .remainder dividend.toInt notZero

/-- The value of a well-typed expression stands for its meaning at the quantity. -/
theorem HasType.means_valueAt
    {expression : Expression}
    {type : ValueType}
    (typed : HasType expression type)
    (quantity : Int64) :
    expression.Means quantity.toInt (expression.valueAt quantity).meaning := by
  induction typed with
  | @«variable» offset name known =>
      exact .variable offset name
  | literal offset value =>
      exact .literal offset value
  | negation offset operandTyped operandHypothesis =>
      obtain ⟨truth, same⟩ := exists_boolean_of_type (operandTyped.type_valueAt quantity)
      rw [same] at operandHypothesis
      rw [Expression.valueAt, same]
      exact .negation offset operandHypothesis
  | binary offset related leftTyped rightTyped noZero leftHypothesis rightHypothesis =>
      exact .binary offset leftHypothesis rightHypothesis
        (related.means_apply (leftTyped.type_valueAt quantity) (rightTyped.type_valueAt quantity))
  | conditional offset conditionTyped trueTyped falseTyped conditionHypothesis trueHypothesis
      falseHypothesis =>
      obtain ⟨truth, same⟩ := exists_boolean_of_type (conditionTyped.type_valueAt quantity)
      rw [same] at conditionHypothesis
      rw [Expression.valueAt, same]
      cases truth with
      | true =>
          exact .whenTrue offset conditionHypothesis trueHypothesis
      | false =>
          exact .whenFalse offset conditionHypothesis falseHypothesis

/-- The types that are found are those of the rules. An expression with a type has values of that
type, and at every quantity its value stands for what it means, over integers of any size and
without taking a truth value for an integer or an integer for a truth value. -/
theorem typeOf_iff_hasType_and_means
    (expression : Expression)
    (type : ValueType) :
    (expression.typeOf = .ok type ↔ HasType expression type) ∧
      (expression.typeOf = .ok type →
        ∀ quantity : Int64,
          (expression.valueAt quantity).type = type ∧
          ∀ meaning,
            expression.Means quantity.toInt meaning ↔
              meaning = (expression.valueAt quantity).meaning) := by
  refine ⟨typeOf_eq_ok_iff, fun found quantity => ?_⟩
  have typed := hasType_of_typeOf found
  have means := typed.means_valueAt quantity
  refine ⟨typed.type_valueAt quantity, fun meaning => ⟨fun other => other.unique means, ?_⟩⟩
  rintro rfl
  exact means

/-- At the least quantity the inner remainder is minus one, so that the quotient is no word. -/
theorem means_remainder_at_minValue :
    let expression : Expression :=
      .binary 0 .remainder (.variable 0 "n")
        (.binary 5 .remainder (.variable 5 "n") (.literal 9 7))
    Expression.read "n % (n % 7)" = .ok expression ∧
      expression.typeOf = .ok .integer ∧
      HasType expression .integer ∧
      ∀ meaning,
        expression.Means (-9223372036854775808) meaning ↔ meaning = .integer 0 := by
  intro expression
  have readAs : Expression.read "n % (n % 7)" = .ok expression := by cbv
  have found : expression.typeOf = .ok .integer := by decide
  obtain ⟨typed, means⟩ := typeOf_iff_hasType_and_means expression .integer
  have value : (expression.valueAt Int64.minValue).meaning = .integer 0 := by decide
  have meansValue := (means found Int64.minValue).2
  rw [value] at meansValue
  exact ⟨readAs, found, typed.mp found, meansValue⟩

end Phrasebook.Plural
