import Mathlib
import Phrasebook.Proofs.Generated.Execution
import Phrasebook.Proofs.Plural.CodeReading
import Phrasebook.Proofs.Plural.TypeRules

namespace Phrasebook.Plural

open Generated

/-!
# Running the code of plural rules

The term of a well-typed expression runs to the value of the expression. A remainder by a literal
is taken without a check, which is safe because the literal is positive; every other divisor goes
through the checked call.
-/

/-- A value of an expression as a value of generated code. -/
def Value.generated :
    Value →
    Generated.Value
  | .integer value => .integer value
  | .boolean value => .truth value

theorem integer_beq
    (left right : Int64) :
    (Value.integer left == Value.integer right) = (left == right) := by
  rw [Bool.eq_iff_iff]
  simp

theorem boolean_beq
    (left right : Bool) :
    (Value.boolean left == Value.boolean right) = (left == right) := by
  rw [Bool.eq_iff_iff]
  simp

/-! ## Remainders -/

/-- The checked remainder, zero where there is none, is the remainder of plural rules. -/
theorem checkedRemainder?_getD
    (dividend divisor : Int64) :
    (checkedRemainder? dividend divisor).getD 0 = totalRemainder dividend divisor := by
  unfold checkedRemainder? lacksRemainder totalRemainder
  by_cases zero : divisor = 0
  · simp [zero]
  · by_cases overflow : dividend = Int64.minValue ∧ divisor = -1
    · obtain ⟨rfl, rfl⟩ := overflow
      decide
    · have safe : (dividend == Int64.minValue && divisor == -1) = false := by
        simpa using overflow
      simp [zero, safe]

theorem ne_zero_of_toInt_pos
    {value : Int64}
    (positive : 0 < value.toInt) :
    value ≠ 0 := by
  rintro rfl
  revert positive
  decide

/-- A positive divisor always leaves a remainder. -/
theorem lacksRemainder_of_pos
    (dividend : Int64)
    {divisor : Int64}
    (positive : 0 < divisor.toInt) :
    lacksRemainder dividend divisor = false := by
  have notZero := ne_zero_of_toInt_pos positive
  have notMinusOne : divisor ≠ -1 := by
    rintro rfl
    revert positive
    decide
  simp [lacksRemainder, notZero, notMinusOne]

/-- A literal that is no zero is positive. -/
theorem toInt_pos_of_ne_zero
    {offset : Nat}
    {value : Int64}
    (nonnegative : 0 ≤ value.toInt)
    (notZero : Expression.literal offset value ≠ .literal offset 0) :
    0 < value.toInt := by
  have differs : value.toInt ≠ 0 := by
    intro isZero
    have same : value = 0 := Int64.toInt_inj.mp isZero
    exact notZero (same ▸ rfl)
  omega

/-- A divisor that is a literal leaves a remainder of any dividend. -/
theorem leavesRemainder_of_isLiteral
    {divisor : Expression}
    (isLiteral : divisor.isLiteral)
    (nonnegative : divisor.LiteralsNonnegative)
    (noZero : ∀ offset, divisor ≠ .literal offset 0)
    (dividend quantity : Int64) :
    (divisor.valueAt quantity).toInteger ≠ 0 ∧
      lacksRemainder dividend (divisor.valueAt quantity).toInteger = false := by
  cases divisor with
  | literal offset value =>
      have positive := toInt_pos_of_ne_zero nonnegative (noZero offset)
      exact ⟨ne_zero_of_toInt_pos positive, lacksRemainder_of_pos dividend positive⟩
  | «variable» | negation | binary | conditional =>
      cases isLiteral

/-! ## Operators -/

/-- An operator that evaluates both operands concludes from their values. -/
theorem run_binary_of_shortcut?_eq_none
    {scope : Scope}
    {operator : Operator}
    {leftTerm rightTerm : Term}
    {left right : Generated.Value}
    (leftRun : leftTerm.run scope = .ok left)
    (rightRun : rightTerm.run scope = .ok right)
    (noShortcut : operator.shortcut? left = none) :
    (Term.binary operator leftTerm rightTerm).run scope = operator.conclude left right := by
  rw [Term.run, leftRun]
  simp only [bind, Except.bind, noShortcut, rightRun]

theorem run_binary_of_shortcut?_eq_some
    {scope : Scope}
    {operator : Operator}
    {leftTerm rightTerm : Term}
    {left value : Generated.Value}
    (leftRun : leftTerm.run scope = .ok left)
    (shortcut : operator.shortcut? left = some value) :
    (Term.binary operator leftTerm rightTerm).run scope = .ok value := by
  rw [Term.run, leftRun]
  simp only [bind, Except.bind, shortcut]

/-- An operator of generated code does what the operator does, given operands of its types and a
divisor that leaves a remainder. -/
theorem BinaryOperator.Relates.run_binary
    {operator : BinaryOperator}
    {operandType type : ValueType}
    {scope : Scope}
    {leftTerm rightTerm : Term}
    {left right : Value}
    (related : operator.Relates operandType type)
    (leftTyped : left.type = operandType)
    (rightTyped : right.type = operandType)
    (leftRun : leftTerm.run scope = .ok left.generated)
    (rightRun : rightTerm.run scope = .ok right.generated)
    (safe :
      operator = .remainder →
        right.toInteger ≠ 0 ∧ lacksRemainder left.toInteger right.toInteger = false) :
    (Term.binary operator.generated leftTerm rightTerm).run scope =
      .ok (operator.apply left right).generated := by
  cases related with
  | or =>
      obtain ⟨leftTruth, rfl⟩ := exists_boolean_of_type leftTyped
      obtain ⟨rightTruth, rfl⟩ := exists_boolean_of_type rightTyped
      cases leftTruth with
      | true =>
          exact run_binary_of_shortcut?_eq_some leftRun rfl
      | false =>
          exact run_binary_of_shortcut?_eq_none leftRun rightRun rfl
  | and =>
      obtain ⟨leftTruth, rfl⟩ := exists_boolean_of_type leftTyped
      obtain ⟨rightTruth, rfl⟩ := exists_boolean_of_type rightTyped
      cases leftTruth with
      | true =>
          exact run_binary_of_shortcut?_eq_none leftRun rightRun rfl
      | false =>
          exact run_binary_of_shortcut?_eq_some leftRun rfl
  | equal | notEqual =>
      rw [run_binary_of_shortcut?_eq_none leftRun rightRun rfl]
      cases operandType with
      | integer =>
          obtain ⟨leftInteger, rfl⟩ := exists_integer_of_type leftTyped
          obtain ⟨rightInteger, rfl⟩ := exists_integer_of_type rightTyped
          simp only [BinaryOperator.apply, bne, integer_beq]
          rfl
      | boolean =>
          obtain ⟨leftTruth, rfl⟩ := exists_boolean_of_type leftTyped
          obtain ⟨rightTruth, rfl⟩ := exists_boolean_of_type rightTyped
          simp only [BinaryOperator.apply, bne, boolean_beq]
          rfl
  | less | lessEqual | greater | greaterEqual =>
      obtain ⟨leftInteger, rfl⟩ := exists_integer_of_type leftTyped
      obtain ⟨rightInteger, rfl⟩ := exists_integer_of_type rightTyped
      exact run_binary_of_shortcut?_eq_none leftRun rightRun rfl
  | remainder =>
      obtain ⟨leftInteger, rfl⟩ := exists_integer_of_type leftTyped
      obtain ⟨rightInteger, rfl⟩ := exists_integer_of_type rightTyped
      obtain ⟨notZero, remains⟩ := safe rfl
      simp only [Value.toInteger] at notZero remains
      rw [run_binary_of_shortcut?_eq_none leftRun rightRun rfl]
      simp [BinaryOperator.generated, Operator.conclude, Operator.apply, Value.generated, remains,
        BinaryOperator.apply, Value.toInteger, totalRemainder, notZero]

/-- The checked call makes the remainder of plural rules. -/
theorem run_checkedCall
    {scope : Scope}
    {leftTerm rightTerm : Term}
    {left right : Int64}
    (leftRun : leftTerm.run scope = .ok (.integer left))
    (rightRun : rightTerm.run scope = .ok (.integer right)) :
    (Term.method (.call ["i64", "checked_rem"] [leftTerm, rightTerm]) "unwrap_or"
        [.number 0]).run scope =
      .ok (.integer (totalRemainder left right)) := by
  have operands := runAll_cons leftRun (runAll_singleton rightRun)
  have called :
      (Term.call ["i64", "checked_rem"] [leftTerm, rightTerm]).run scope =
        .ok (.optional (checkedRemainder? left right)) :=
    Term.run_call ["i64", "checked_rem"] operands
  have zero : (Term.number 0).run scope = .ok (.integer 0) := by rw [Term.run]
  rw [Term.run_method "unwrap_or" called (runAll_singleton zero), ← checkedRemainder?_getD]
  rfl

theorem run_conditional
    {scope : Scope}
    {conditionTerm trueTerm falseTerm : Term}
    {condition : Bool}
    {whenTrue whenFalse : Generated.Value}
    (conditionRun : conditionTerm.run scope = .ok (.truth condition))
    (trueRun : trueTerm.run scope = .ok whenTrue)
    (falseRun : falseTerm.run scope = .ok whenFalse) :
    (Term.conditional conditionTerm trueTerm falseTerm).run scope =
      .ok (if condition then whenTrue else whenFalse) := by
  rw [Term.run, conditionRun]
  cases condition with
  | true =>
      exact trueRun
  | false =>
      exact falseRun

/-! ## Expressions and rules -/

/-- The term of a well-typed expression runs to the value of the expression, at a quantity that need
not be bound if it is not mentioned. -/
theorem HasType.run_term
    {expression : Expression}
    {type : ValueType}
    {scope : Scope}
    {quantity : Int64}
    (typed : HasType expression type)
    (nonnegative : expression.LiteralsNonnegative)
    (bound :
      expression.mentionsQuantity →
        scope.locals.lookup "n" = some (.integer quantity)) :
    expression.term.run scope = .ok (expression.valueAt quantity).generated := by
  induction typed with
  | «variable» offset known =>
      simp [Expression.term, Term.run, Scope.lookUp, bound rfl, found, Expression.valueAt,
        Value.generated]
  | literal offset value =>
      rfl
  | negation offset operandTyped operandHypothesis =>
      obtain ⟨truth, same⟩ := exists_boolean_of_type (operandTyped.type_valueAt quantity)
      have operandRun := operandHypothesis nonnegative bound
      rw [Expression.term, Term.run, operandRun, Expression.valueAt, same]
      rfl
  | @binary offset operator operandType type left right related leftTyped rightTyped noZero
      leftHypothesis rightHypothesis =>
      simp only [Expression.mentionsQuantity, Bool.or_eq_true] at bound
      have leftRun := leftHypothesis nonnegative.1 fun mentioned => bound (.inl mentioned)
      have rightRun := rightHypothesis nonnegative.2 fun mentioned => bound (.inr mentioned)
      have leftValue := leftTyped.type_valueAt quantity
      have rightValue := rightTyped.type_valueAt quantity
      rw [Expression.term, Expression.valueAt]
      split
      · rename_i checked
        rw [Expression.isChecked, Bool.and_eq_true, decide_eq_true_eq] at checked
        obtain ⟨rfl, _⟩ := checked
        cases related
        obtain ⟨leftInteger, leftSame⟩ := exists_integer_of_type leftValue
        obtain ⟨rightInteger, rightSame⟩ := exists_integer_of_type rightValue
        rw [leftSame] at leftRun
        rw [rightSame] at rightRun
        rw [run_checkedCall leftRun rightRun, leftSame, rightSame]
        rfl
      · rename_i unchecked
        refine related.run_binary leftValue rightValue leftRun rightRun ?_
        rintro rfl
        have isLiteral : right.isLiteral := by
          simpa [Expression.isChecked] using unchecked
        exact leavesRemainder_of_isLiteral isLiteral nonnegative.2 (noZero rfl) _ quantity
  | conditional offset conditionTyped trueTyped falseTyped conditionHypothesis trueHypothesis
      falseHypothesis =>
      obtain ⟨conditionNonnegative, trueNonnegative, falseNonnegative⟩ := nonnegative
      simp only [Expression.mentionsQuantity, Bool.or_eq_true] at bound
      obtain ⟨truth, same⟩ := exists_boolean_of_type (conditionTyped.type_valueAt quantity)
      have conditionRun :=
        conditionHypothesis conditionNonnegative fun mentioned => bound (.inl (.inl mentioned))
      have trueRun := trueHypothesis trueNonnegative fun mentioned => bound (.inl (.inr mentioned))
      have falseRun := falseHypothesis falseNonnegative fun mentioned => bound (.inr mentioned)
      rw [same] at conditionRun
      rw [Expression.term, run_conditional conditionRun trueRun falseRun, Expression.valueAt, same]
      cases truth <;> rfl

/-- A rule that compiles is well typed and has no negative literals. -/
theorem Rule.wellFormed_of_compile
    {locale source : String}
    {forms : Nat}
    {rule : Rule}
    (compiled : Rule.compile locale forms source = .ok rule) :
    HasType rule.expression rule.type ∧ rule.expression.LiteralsNonnegative := by
  unfold Rule.compile at compiled
  split at compiled
  · cases compiled
  · rename_i expression read
    split at compiled
    · cases compiled
    · rename_i type typed
      cases compiled
      exact ⟨hasType_of_typeOf typed, literalsNonnegative_of_read read⟩

/-- The term of a rule that compiles runs to the index that the rule computes. -/
theorem Rule.run_term
    {rule : Rule}
    {scope : Scope}
    {quantity : Int64}
    (typed : HasType rule.expression rule.type)
    (nonnegative : rule.expression.LiteralsNonnegative)
    (bound :
      rule.mentionsQuantity →
        scope.locals.lookup "n" = some (.integer quantity)) :
    rule.term.run scope = .ok (.integer (rule.evaluate quantity)) := by
  have expressionRun := typed.run_term nonnegative bound
  have valueTyped := typed.type_valueAt quantity
  unfold Rule.term Rule.evaluate
  cases type : rule.type with
  | integer =>
      rw [type] at valueTyped
      obtain ⟨integer, same⟩ := exists_integer_of_type valueTyped
      rw [same] at expressionRun ⊢
      exact expressionRun
  | boolean =>
      rw [type] at valueTyped
      obtain ⟨truth, same⟩ := exists_boolean_of_type valueTyped
      rw [same] at expressionRun ⊢
      have one : (Term.number 1).run scope = .ok (.integer 1) := rfl
      have zero : (Term.number 0).run scope = .ok (.integer 0) := rfl
      simp only
      rw [run_conditional expressionRun one zero]
      cases truth <;> rfl

/-- The lexemes of a text determine what it is read as. -/
theorem read_of_spells
    {text : String}
    {lexemes : List Generated.Lexeme}
    {nested : List Generated.Lexeme}
    {term : Term}
    (spelled : Spells text.toList lexemes)
    (reads : ReadsAs lexemes nested term) :
    Term.read text = some term ∧ Term.readInside text = some term := by
  have plain := reads.whole .free [] rfl
  have value := reads.value [] rfl
  rw [List.append_nil] at plain value
  unfold Spells at spelled
  exact ⟨by simp [Term.read, spelled, plain, whole], by simp [Term.readInside, spelled, value, whole]⟩

/-- The code of a rule that compiles is an expression of the generated language, read alike by
itself and as the body of a function, that ends without a panic with the index of the rule. -/
theorem Rule.run_code
    {locale source : String}
    {forms : Nat}
    {rule : Rule}
    (compiled : Rule.compile locale forms source = .ok rule) :
    ∃ term,
      Term.read rule.code = some term ∧
      Term.readInside rule.code = some term ∧
      ∀ (scope : Scope) (quantity : Int64),
        scope.locals.lookup "n" = some (.integer quantity) →
        term.run scope = .ok (.integer (rule.evaluate quantity)) := by
  obtain ⟨typed, nonnegative⟩ := Rule.wellFormed_of_compile compiled
  obtain ⟨nested, reads⟩ := rule.readsAs_lexemes nonnegative
  obtain ⟨read, readInside⟩ := read_of_spells (rule.spells_code nonnegative) reads
  exact ⟨rule.term, read, readInside, fun scope quantity bound =>
    Rule.run_term typed nonnegative fun _ => bound⟩

/-- At the least quantity the divisor is minus one, and an unchecked remainder would overflow. -/
theorem Rule.run_code_at_minValue :
    let rule : Rule :=
      ⟨"pl", 2, "n % (n % 7)",
        .binary 0 .remainder (.variable 0 "n")
          (.binary 5 .remainder (.variable 5 "n") (.literal 9 7)),
        .integer⟩
    let scope : Scope :=
      ⟨[], [("n", .integer Int64.minValue)], fun _ _ => .error .stuck⟩
    Rule.compile "pl" 2 "n % (n % 7)" = .ok rule ∧
      ∃ term,
        Term.read rule.code = some term ∧
        Term.readInside rule.code = some term ∧
        term.run scope = .ok (.integer (rule.evaluate Int64.minValue)) := by
  intro rule scope
  have compiled : Rule.compile "pl" 2 "n % (n % 7)" = .ok rule := by cbv
  obtain ⟨term, read, readInside, run⟩ := Rule.run_code compiled
  exact ⟨compiled, term, read, readInside, run scope Int64.minValue rfl⟩

end Phrasebook.Plural
