import Phrasebook.Plural.Evaluation
import Phrasebook.Proofs.Result

namespace Phrasebook.Plural

/-!
# The types of plural expressions as rules

Which expressions have which type, without an order of examination and without faults. The type
that is found for an expression is the one it has by the rules, and so is that of its values.
-/

/-- The type of the operands of an operator and the type of what it makes. -/
inductive BinaryOperator.Relates :
    BinaryOperator →
    ValueType →
    ValueType →
    Prop where
  | or : Relates .or .boolean .boolean
  | and : Relates .and .boolean .boolean
  | equal (operand : ValueType) : Relates .equal operand .boolean
  | notEqual (operand : ValueType) : Relates .notEqual operand .boolean
  | less : Relates .less .integer .boolean
  | lessEqual : Relates .lessEqual .integer .boolean
  | greater : Relates .greater .integer .boolean
  | greaterEqual : Relates .greaterEqual .integer .boolean
  | remainder : Relates .remainder .integer .integer

/-- The types of expressions. -/
inductive HasType :
    Expression →
    ValueType →
    Prop where
  | «variable»
      (offset : Nat)
      {name : String} :
      name = "n" ∨ name = "value" →
      HasType (.variable offset name) .integer
  | literal (offset : Nat) (value : Int64) :
      HasType (.literal offset value) .integer
  | negation
      (offset : Nat)
      {operand : Expression} :
      HasType operand .boolean →
      HasType (.negation offset operand) .boolean
  | binary
      (offset : Nat)
      {operator : BinaryOperator}
      {operandType type : ValueType}
      {left right : Expression} :
      operator.Relates operandType type →
      HasType left operandType →
      HasType right operandType →
      (operator = .remainder → ∀ zeroOffset, right ≠ .literal zeroOffset 0) →
      HasType (.binary offset operator left right) type
  | conditional
      (offset : Nat)
      {type : ValueType}
      {condition whenTrue whenFalse : Expression} :
      HasType condition .boolean →
      HasType whenTrue type →
      HasType whenFalse type →
      HasType (.conditional offset condition whenTrue whenFalse) type

theorem contains_quantityNames
    {name : String} :
    quantityNames.contains name ↔ name = "n" ∨ name = "value" := by
  simp [quantityNames]

theorem isZeroLiteral_eq_false_iff
    {expression : Expression} :
    expression.isZeroLiteral = false ↔ ∀ offset, expression ≠ .literal offset 0 := by
  cases expression <;> simp [Expression.isZeroLiteral]

@[simp]
theorem requireType_self
    (role : Role)
    (type : ValueType)
    (offset : Nat) :
    requireType role type offset type = .ok () :=
  if_pos rfl

theorem requireType_eq_ok
    {role : Role}
    {expected found : ValueType}
    {offset : Nat}
    (accepted : requireType role expected offset found = .ok ()) :
    found = expected := by
  unfold requireType at accepted
  split at accepted
  · assumption
  · cases accepted

theorem typeOf_of_requireType_eq_ok
    {α : Type}
    {role : Role}
    {expected : ValueType}
    {offset : Nat}
    {expression : Expression}
    {next : Except TypeError α}
    {result : α}
    (accepted :
      (do
        requireType role expected offset (← expression.typeOf)
        next) = .ok result) :
    expression.typeOf = .ok expected ∧ next = .ok result := by
  obtain ⟨type, typed, rest⟩ := bind_eq_ok accepted
  obtain ⟨_, required, nextSucceeded⟩ := bind_eq_ok rest
  rw [requireType_eq_ok required] at typed
  exact ⟨typed, nextSucceeded⟩

/-- The types that are found are those of the rules. -/
theorem hasType_of_typeOf
    {expression : Expression}
    {type : ValueType}
    (typed : expression.typeOf = .ok type) :
    HasType expression type := by
  induction expression generalizing type with
  | «variable» offset name =>
      rw [Expression.typeOf] at typed
      split at typed
      · rename_i known
        cases typed
        exact .variable offset (contains_quantityNames.mp known)
      · cases typed
  | literal offset value =>
      cases typed
      exact .literal offset value
  | negation offset operand operandHypothesis =>
      obtain ⟨operandTyped, rest⟩ := typeOf_of_requireType_eq_ok typed
      cases rest
      exact .negation offset (operandHypothesis operandTyped)
  | binary offset operator left right leftHypothesis rightHypothesis =>
      cases operator with
      | equal | notEqual =>
          obtain ⟨operandType, leftTyped, rest⟩ := bind_eq_ok typed
          obtain ⟨rightTyped, rest⟩ := typeOf_of_requireType_eq_ok rest
          cases rest
          exact .binary offset (by constructor) (leftHypothesis leftTyped)
            (rightHypothesis rightTyped) (by simp)
      | or | and | less | lessEqual | greater | greaterEqual =>
          obtain ⟨leftTyped, rest⟩ := typeOf_of_requireType_eq_ok typed
          obtain ⟨rightTyped, rest⟩ := typeOf_of_requireType_eq_ok rest
          cases rest
          exact .binary offset (by constructor) (leftHypothesis leftTyped)
            (rightHypothesis rightTyped) (by simp)
      | remainder =>
          obtain ⟨leftTyped, rest⟩ := typeOf_of_requireType_eq_ok typed
          obtain ⟨rightTyped, rest⟩ := typeOf_of_requireType_eq_ok rest
          split at rest
          · cases rest
          · rename_i noZero
            cases rest
            exact .binary offset .remainder (leftHypothesis leftTyped)
              (rightHypothesis rightTyped) fun _ =>
                isZeroLiteral_eq_false_iff.mp (Bool.eq_false_iff.mpr noZero)
  | conditional offset condition whenTrue whenFalse conditionHypothesis trueHypothesis
      falseHypothesis =>
      obtain ⟨conditionTyped, rest⟩ := typeOf_of_requireType_eq_ok typed
      obtain ⟨branchType, trueTyped, rest⟩ := bind_eq_ok rest
      obtain ⟨falseTyped, rest⟩ := typeOf_of_requireType_eq_ok rest
      cases rest
      exact .conditional offset (conditionHypothesis conditionTyped) (trueHypothesis trueTyped)
        (falseHypothesis falseTyped)

/-- The types of the rules are found. -/
theorem HasType.typeOf
    {expression : Expression}
    {type : ValueType}
    (typed : HasType expression type) :
    expression.typeOf = .ok type := by
  induction typed with
  | «variable» offset known =>
      rw [Expression.typeOf, if_pos (contains_quantityNames.mpr known)]
  | literal offset value =>
      rfl
  | negation offset operandTyped operandHypothesis =>
      simp [Expression.typeOf, operandHypothesis, bind, Except.bind, pure, Except.pure]
  | @binary offset operator operandType type left right related leftTyped rightTyped noZero
      leftHypothesis rightHypothesis =>
      cases related with
      | remainder =>
          have nonzero := isZeroLiteral_eq_false_iff.mpr (noZero rfl)
          simp [Expression.typeOf, leftHypothesis, rightHypothesis, nonzero, bind, Except.bind,
            pure, Except.pure]
      | or | and | equal | notEqual | less | lessEqual | greater | greaterEqual =>
          simp [Expression.typeOf, leftHypothesis, rightHypothesis, bind, Except.bind, pure,
            Except.pure]
  | conditional offset conditionTyped trueTyped falseTyped conditionHypothesis trueHypothesis
      falseHypothesis =>
      simp [Expression.typeOf, conditionHypothesis, trueHypothesis, falseHypothesis, bind,
        Except.bind, pure, Except.pure]

theorem typeOf_eq_ok_iff
    {expression : Expression}
    {type : ValueType} :
    expression.typeOf = .ok type ↔ HasType expression type :=
  ⟨hasType_of_typeOf, HasType.typeOf⟩

/-! ## Values -/

theorem exists_integer_of_type
    {value : Value}
    (typed : value.type = .integer) :
    ∃ integer, value = .integer integer := by
  cases value with
  | integer integer =>
      exact ⟨integer, rfl⟩
  | boolean truth =>
      cases typed

theorem exists_boolean_of_type
    {value : Value}
    (typed : value.type = .boolean) :
    ∃ truth, value = .boolean truth := by
  cases value with
  | integer integer =>
      cases typed
  | boolean truth =>
      exact ⟨truth, rfl⟩

theorem BinaryOperator.Relates.type_apply
    {operator : BinaryOperator}
    {operandType type : ValueType}
    (related : operator.Relates operandType type)
    (left right : Value) :
    (operator.apply left right).type = type := by
  cases related <;> rfl

/-- The values of an expression are of its type. -/
theorem HasType.type_valueAt
    {expression : Expression}
    {type : ValueType}
    (typed : HasType expression type)
    (quantity : Int64) :
    (expression.valueAt quantity).type = type := by
  induction typed with
  | «variable» offset known =>
      rfl
  | literal offset value =>
      rfl
  | negation offset operandTyped operandHypothesis =>
      rfl
  | binary offset related leftTyped rightTyped noZero leftHypothesis rightHypothesis =>
      exact related.type_apply _ _
  | conditional offset conditionTyped trueTyped falseTyped conditionHypothesis trueHypothesis
      falseHypothesis =>
      rw [Expression.valueAt]
      split
      · exact trueHypothesis
      · exact falseHypothesis

end Phrasebook.Plural
