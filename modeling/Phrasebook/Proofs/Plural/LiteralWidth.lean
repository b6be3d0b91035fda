import Phrasebook.Proofs.Generated.Acceptance
import Phrasebook.Proofs.Plural.CodeReading
import Phrasebook.Proofs.Plural.TypeRules

namespace Phrasebook.Plural

open Generated

/-!
# Widths of literals in plural rules

A rule counts in 64 bits. Its code does so too where a number is joined with the quantity, with a
checked remainder or with the result of the rule; a comparison whose sides are made of literals
alone is read at 32 bits, so the code of the rule is accepted just if the literals of all such
comparisons have 32 bits.
-/

namespace Expression

/-- Whether the quantity or a checked remainder decides the type of an integer. -/
def fixesWidth :
    Expression →
    Bool
  | .variable _ _ => true
  | .binary _ .remainder left right => !right.isLiteral || left.fixesWidth
  | .conditional _ _ whenTrue whenFalse => whenTrue.fixesWidth || whenFalse.fixesWidth
  | _ => false

/-- The literals that have the type of the value of an expression. -/
def resultLiterals :
    Expression →
    List Int64
  | .literal _ value => [value]
  | .binary _ .remainder left right => left.resultLiterals ++ right.resultLiterals
  | .conditional _ _ whenTrue whenFalse => whenTrue.resultLiterals ++ whenFalse.resultLiterals
  | _ => []

/-- Whether the literals on both sides of a comparison are of its type. -/
def comparesWithin
    (left right : Expression) :
    Bool :=
  (left.fixesWidth || right.fixesWidth) ||
    (left.resultLiterals ++ right.resultLiterals).all isShort

/-- Whether every comparison inside an expression has literals of its type. -/
def literalsFit :
    Expression →
    Bool
  | .variable _ _ => true
  | .literal _ _ => true
  | .negation _ operand => operand.literalsFit
  | .binary _ operator left right =>
      (operator = .remainder || comparesWithin left right) &&
        (left.literalsFit && right.literalsFit)
  | .conditional _ condition whenTrue whenFalse =>
      condition.literalsFit && (whenTrue.literalsFit && whenFalse.literalsFit)

end Expression

namespace HasType

variable {expression : Expression} {type : ValueType}

/-- A truth value is of no width. -/
theorem widthless
    (typed : HasType expression type)
    (isTruth : type = .boolean) :
    expression.fixesWidth = false ∧ expression.resultLiterals = [] := by
  induction typed with
  | «variable» | literal =>
      cases isTruth
  | negation =>
      exact ⟨rfl, rfl⟩
  | binary offset related =>
      cases related with
      | remainder =>
          cases isTruth
      | _ =>
          exact ⟨rfl, rfl⟩
  | conditional offset _ _ _ _ trueHypothesis falseHypothesis =>
      have whenTrue := trueHypothesis isTruth
      have whenFalse := falseHypothesis isTruth
      simp [Expression.fixesWidth, Expression.resultLiterals, whenTrue, whenFalse]

theorem fixesWidth_term
    (typed : HasType expression type) :
    expression.term.fixesWidth = expression.fixesWidth := by
  induction typed with
  | «variable» | literal =>
      rfl
  | negation offset operandTyped operandHypothesis =>
      rw [Expression.term, Term.fixesWidth, operandHypothesis]
      exact (operandTyped.widthless rfl).1
  | @binary offset operator operandType type left right related _ _ _ leftHypothesis
      rightHypothesis =>
      rw [Expression.term]
      cases related with
      | remainder =>
          cases right with
          | literal =>
              simp [Expression.isChecked, Expression.isLiteral, Term.fixesWidth,
                BinaryOperator.generated, Operator.keepsType, Expression.fixesWidth,
                leftHypothesis, rightHypothesis]
          | _ =>
              simp [Expression.isChecked, Expression.isLiteral, Term.fixesWidth,
                Expression.fixesWidth]
      | _ =>
          simp [Expression.isChecked, Term.fixesWidth, BinaryOperator.generated,
            Operator.keepsType, Expression.fixesWidth]
  | conditional offset _ _ _ _ trueHypothesis falseHypothesis =>
      rw [Expression.term, Term.fixesWidth, trueHypothesis, falseHypothesis]
      rfl

/-- Two integers of one type each have the width that the surroundings, the other or it itself give
the type. -/
theorem joined_fit
    (fixed left right leftShort rightShort leftFits rightFits : Bool) :
    ((fixed || left || right || left || leftShort) && leftFits &&
        ((fixed || left || right || right || rightShort) && rightFits)) =
      ((fixed || (left || right) || (leftShort && rightShort)) && (leftFits && rightFits)) := by
  cases fixed <;> cases left <;> cases right <;> simp [Bool.and_left_comm, Bool.and_assoc]

/-- The literals in the term of an expression are of their types just if those of its comparisons
are, and those of its value have the width that its surroundings or it itself give them. -/
theorem fitsWidth_term
    (typed : HasType expression type)
    (fixed : Bool) :
    expression.term.fitsWidth fixed =
      ((fixed || expression.fixesWidth || expression.resultLiterals.all isShort) &&
        expression.literalsFit) := by
  induction typed generalizing fixed with
  | «variable» =>
      simp [Expression.term, Term.fitsWidth, Expression.fixesWidth, Expression.literalsFit]
  | literal =>
      simp [Expression.term, Term.fitsWidth, Expression.fixesWidth, Expression.resultLiterals,
        Expression.literalsFit]
  | negation offset operandTyped operandHypothesis =>
      obtain ⟨operandWidth, operandLiterals⟩ := operandTyped.widthless rfl
      rw [Expression.term, Term.fitsWidth, operandHypothesis, operandWidth, operandLiterals]
      simp [Expression.fixesWidth, Expression.resultLiterals, Expression.literalsFit]
  | @binary offset operator operandType type left right related leftTyped rightTyped _
      leftHypothesis rightHypothesis =>
      have leftWidth := leftTyped.fixesWidth_term
      have rightWidth := rightTyped.fixesWidth_term
      rw [Expression.term]
      cases related with
      | remainder =>
          cases right with
          | literal rightOffset value =>
              have joined :=
                joined_fit fixed left.fixesWidth false (left.resultLiterals.all isShort)
                  (isShort value) left.literalsFit true
              simpa [Expression.isChecked, Expression.isLiteral, Term.fitsWidth,
                BinaryOperator.generated, Operator.unites, Operator.keepsType,
                Expression.fixesWidth, Expression.resultLiterals, Expression.literalsFit,
                leftHypothesis, rightHypothesis, leftWidth, rightWidth] using joined
          | _ =>
              simp [Expression.isChecked, Expression.isLiteral, Term.fitsWidth, allFitWidth,
                Expression.fixesWidth, Expression.literalsFit, leftHypothesis, rightHypothesis]
      | or | and =>
          obtain ⟨_, leftLiterals⟩ := leftTyped.widthless rfl
          obtain ⟨_, rightLiterals⟩ := rightTyped.widthless rfl
          simp [Expression.isChecked, Term.fitsWidth, BinaryOperator.generated, Operator.unites,
            Expression.resultLiterals, Expression.literalsFit, Expression.comparesWithin,
            leftHypothesis, rightHypothesis, leftLiterals, rightLiterals]
      | _ =>
          have joined :=
            joined_fit false left.fixesWidth right.fixesWidth
              (left.resultLiterals.all isShort) (right.resultLiterals.all isShort)
              left.literalsFit right.literalsFit
          simpa [Expression.isChecked, Term.fitsWidth, BinaryOperator.generated,
            Operator.unites, Operator.keepsType, Expression.resultLiterals,
            Expression.literalsFit, Expression.comparesWithin, leftHypothesis, rightHypothesis,
            leftWidth, rightWidth] using joined
  | conditional offset conditionTyped trueTyped falseTyped conditionHypothesis trueHypothesis
      falseHypothesis =>
      rename_i condition whenTrue whenFalse
      obtain ⟨_, conditionLiterals⟩ := conditionTyped.widthless rfl
      have joined :=
        joined_fit fixed whenTrue.fixesWidth whenFalse.fixesWidth
          (whenTrue.resultLiterals.all isShort) (whenFalse.resultLiterals.all isShort)
          whenTrue.literalsFit whenFalse.literalsFit
      simp only [Expression.term, Term.fitsWidth, conditionHypothesis, conditionLiterals,
        List.all_nil, Bool.or_true, Bool.true_and, trueHypothesis, falseHypothesis,
        trueTyped.fixesWidth_term, falseTyped.fixesWidth_term]
      rw [joined, Expression.fixesWidth, Expression.resultLiterals, Expression.literalsFit,
        List.all_append, Bool.and_left_comm]

/-- Within a function that returns a word of 64 bits, only the comparisons of an expression matter. -/
theorem fitsWidth_term_true
    (typed : HasType expression type) :
    expression.term.fitsWidth true = expression.literalsFit := by
  simp [typed.fitsWidth_term]

end HasType

/-! ## Rules -/

/-- The code of a rule calls no function of a type but that of the checked remainder. -/
theorem Expression.calledTypes_term
    (expression : Expression) :
    ∀ name ∈ expression.term.calledTypes, name = "i64" := by
  induction expression with
  | «variable» | literal =>
      simp [term, Term.calledTypes]
  | negation offset operand operandHypothesis =>
      exact operandHypothesis
  | binary offset operator left right leftHypothesis rightHypothesis =>
      have operands : ∀ name ∈ left.term.calledTypes ++ right.term.calledTypes, name = "i64" :=
        List.forall_mem_append.mpr ⟨leftHypothesis, rightHypothesis⟩
      rw [term]
      split
      · simpa [Term.calledTypes, calledInAll, typeInPath] using operands
      · simpa [Term.calledTypes] using operands
  | conditional offset condition whenTrue whenFalse conditionHypothesis trueHypothesis
      falseHypothesis =>
      have branches := List.forall_mem_append.mpr ⟨conditionHypothesis, trueHypothesis⟩
      exact List.forall_mem_append.mpr ⟨branches, falseHypothesis⟩

namespace Rule

/-- Whether every comparison inside a rule has literals of its type. -/
def literalsFit
    (rule : Rule) :
    Bool :=
  rule.expression.literalsFit

/-- The code of a rule is accepted as what returns a word of 64 bits just if the literals of the
comparisons in the rule are of their types. -/
theorem fitsWidth_term
    {rule : Rule}
    (typed : HasType rule.expression rule.type) :
    rule.term.fitsWidth true = rule.literalsFit := by
  unfold term
  cases type : rule.type with
  | integer =>
      exact typed.fitsWidth_term_true
  | boolean =>
      obtain ⟨_, literals⟩ := typed.widthless type
      simp [Term.fitsWidth, typed.fitsWidth_term, literals, literalsFit]

theorem calledTypes_term
    (rule : Rule) :
    ∀ name ∈ rule.term.calledTypes, name = "i64" := by
  have inner := rule.expression.calledTypes_term
  unfold term
  cases rule.type with
  | integer =>
      exact inner
  | boolean =>
      simpa [Term.calledTypes] using inner

end Rule

end Phrasebook.Plural
