import Phrasebook.Plural.Rule
import Phrasebook.Proofs.Generated.Reading
import Phrasebook.Proofs.Plural.Grammar

namespace Phrasebook.Plural

open Generated

/-!
# Reading the code of plural expressions

The code of an expression spells certain lexemes, and these are read back as the term that has the
shape of the expression. An operand is a unit wherever it stands, so no operator around it takes a
part of it.
-/

/-- The operator of generated code that an operator is written as. -/
def BinaryOperator.generated :
    BinaryOperator →
    Operator
  | .or => .either
  | .and => .both
  | .equal => .equal
  | .notEqual => .notEqual
  | .less => .less
  | .lessEqual => .lessEqual
  | .greater => .greater
  | .greaterEqual => .greaterEqual
  | .remainder => .remainder

/-- Lexemes in parentheses, if they need them. -/
def surroundedIf
    (needed : Bool)
    (lexemes : List Generated.Lexeme) :
    List Generated.Lexeme :=
  if needed then
    .mark .openParenthesis :: lexemes ++ [.mark .closeParenthesis]
  else
    lexemes

/-- The lexemes of a checked call. -/
def checkedCall
    (dividend divisor : List Generated.Lexeme) :
    List Generated.Lexeme :=
  [.name "i64", .mark .pathSeparator, .name "checked_rem", .mark .openParenthesis] ++ dividend ++
    .mark .comma :: divisor ++
    [.mark .closeParenthesis, .mark .dot, .name "unwrap_or", .mark .openParenthesis, .number 0,
      .mark .closeParenthesis]

/-- The lexemes of a conditional. -/
def conditionalBlocks
    (condition whenTrue whenFalse : List Generated.Lexeme) :
    List Generated.Lexeme :=
  .keyword .conditional :: condition ++ .mark .openBrace :: whenTrue ++
    [.mark .closeBrace, .keyword .alternative, .mark .openBrace] ++ whenFalse ++
    [.mark .closeBrace]

namespace Expression

/-- Whether an operator is written as a checked call. -/
def isChecked
    (operator : BinaryOperator)
    (right : Expression) :
    Bool :=
  operator = .remainder && !right.isLiteral

/-- The term of an expression. -/
def term :
    Expression →
    Term
  | .variable _ _ => .path ["n"]
  | .literal _ value => .number value
  | .negation _ operand => .negation operand.term
  | .binary _ operator left right =>
      if isChecked operator right then
        .method (.call ["i64", "checked_rem"] [left.term, right.term]) "unwrap_or" [.number 0]
      else
        .binary operator.generated left.term right.term
  | .conditional _ condition whenTrue whenFalse =>
      .conditional condition.term whenTrue.term whenFalse.term

/-- The lexemes of the code of an expression, and of an operand if `nested`. -/
def lexemes
    (nested : Bool) :
    Expression →
    List Generated.Lexeme
  | .variable _ _ => [.name "n"]
  | .literal _ value => [.number value.toInt.toNat]
  | .negation _ operand => surroundedIf nested (.mark .bang :: operand.lexemes true)
  | .binary _ operator left right =>
      if isChecked operator right then
        surroundedIf nested (checkedCall (left.lexemes false) (right.lexemes false))
      else
        surroundedIf nested
          (left.lexemes true ++ .mark operator.generated.mark :: right.lexemes true)
  | .conditional _ condition whenTrue whenFalse =>
      surroundedIf nested
        (conditionalBlocks (condition.lexemes false) (whenTrue.lexemes false)
          (whenFalse.lexemes false))

end Expression

namespace Rule

/-- The term of a rule. -/
def term
    (rule : Rule) :
    Term :=
  match rule.type with
  | .boolean => .conditional rule.expression.term (.number 1) (.number 0)
  | .integer => rule.expression.term

/-- The lexemes of the code of a rule. -/
def lexemes
    (rule : Rule) :
    List Generated.Lexeme :=
  match rule.type with
  | .boolean => conditionalBlocks (rule.expression.lexemes false) [.number 1] [.number 0]
  | .integer => rule.expression.lexemes false

end Rule

/-! ## From code to lexemes -/

theorem spells_parenthesizedIf
    {text : String}
    {lexemes : List Generated.Lexeme}
    (spelled : Spells text.toList lexemes)
    (needed : Bool) :
    Spells (Expression.parenthesizedIf needed text).toList (surroundedIf needed lexemes) := by
  cases needed with
  | false =>
      exact spelled
  | true =>
      have opening : Completes ['('] [.mark .openParenthesis] := rfl
      have closing : Spells [')'] [.mark .closeParenthesis] := rfl
      have surrounded := opening.spells_append (spelled.append (by decide) closing)
      simpa [Expression.parenthesizedIf, surroundedIf] using surrounded

theorem spells_checkedCall
    {dividend divisor : String}
    {dividendLexemes divisorLexemes : List Generated.Lexeme}
    (dividendSpelled : Spells dividend.toList dividendLexemes)
    (divisorSpelled : Spells divisor.toList divisorLexemes) :
    Spells
      ("i64::checked_rem(" ++ dividend ++ ", " ++ divisor ++ ").unwrap_or(0)").toList
      (checkedCall dividendLexemes divisorLexemes) := by
  have opening :
      Completes "i64::checked_rem(".toList
        [.name "i64", .mark .pathSeparator, .name "checked_rem", .mark .openParenthesis] :=
    rfl
  have between : Completes [',', ' '] [.mark .comma] := rfl
  have closing :
      Spells (')' :: ".unwrap_or(0)".toList)
        [.mark .closeParenthesis, .mark .dot, .name "unwrap_or", .mark .openParenthesis, .number 0,
          .mark .closeParenthesis] :=
    rfl
  have fromDivisor := divisorSpelled.append (by decide) closing
  have fromDividend := dividendSpelled.append (by decide) (between.spells_append fromDivisor)
  have spelled := opening.spells_append fromDividend
  simpa [checkedCall] using spelled

theorem spells_conditional
    {condition whenTrue whenFalse : String}
    {conditionLexemes trueLexemes falseLexemes : List Generated.Lexeme}
    (conditionSpelled : Spells condition.toList conditionLexemes)
    (trueSpelled : Spells whenTrue.toList trueLexemes)
    (falseSpelled : Spells whenFalse.toList falseLexemes) :
    Spells
      ("if " ++ condition ++ " \x7b " ++ whenTrue ++ " \x7d else \x7b " ++ whenFalse ++
        " \x7d").toList
      (conditionalBlocks conditionLexemes trueLexemes falseLexemes) := by
  have opening : Completes "if ".toList [.keyword .conditional] := rfl
  have afterCondition : Completes [' ', '\x7b', ' '] [.mark .openBrace] := rfl
  have between :
      Completes (' ' :: "\x7d else \x7b ".toList)
        [.mark .closeBrace, .keyword .alternative, .mark .openBrace] :=
    rfl
  have closing : Spells [' ', '\x7d'] [.mark .closeBrace] := rfl
  have fromFalse := falseSpelled.append (by decide) closing
  have fromTrue := trueSpelled.append (by decide) (between.spells_append fromFalse)
  have fromCondition :=
    conditionSpelled.append (by decide) (afterCondition.spells_append fromTrue)
  have spelled := opening.spells_append fromCondition
  simpa [conditionalBlocks] using spelled

namespace Expression

theorem toList_toString_toInt
    {value : Int64}
    (nonnegative : 0 ≤ value.toInt) :
    (toString value.toInt).toList = Nat.toDigits 10 value.toInt.toNat := by
  obtain ⟨magnitude, same⟩ := Int.eq_ofNat_of_zero_le nonnegative
  rw [same]
  exact Nat.toList_repr

/-- The code of an operand does not go on with an exclamation mark before it. -/
theorem head?_code
    (expression : Expression)
    (nonnegative : expression.LiteralsNonnegative) :
    (expression.code true).toList.head? ≠ some '=' := by
  cases expression with
  | literal offset value =>
      rw [code, toList_toString_toInt nonnegative]
      intro isEquals
      have digit : '='.isDigit :=
        Nat.isDigit_of_mem_toDigits (by decide) (by decide) (List.mem_of_head? isEquals)
      revert digit
      decide
  | «variable» offset name =>
      rw [code]
      decide
  | negation offset operand =>
      rw [code]
      simp [parenthesizedIf]
  | binary offset operator left right =>
      rw [code]
      split <;> simp [parenthesizedIf]
  | conditional offset condition whenTrue whenFalse =>
      rw [code]
      simp [parenthesizedIf]

/-- The code of an expression spells its lexemes. -/
theorem spells_code
    (expression : Expression)
    (nonnegative : expression.LiteralsNonnegative)
    (nested : Bool) :
    Spells (expression.code nested).toList (expression.lexemes nested) := by
  induction expression generalizing nested with
  | «variable» offset name =>
      rw [code, lexemes]
      rfl
  | literal offset value =>
      rw [code, toList_toString_toInt nonnegative]
      exact spells_number value.toInt.toNat
  | negation offset operand operandHypothesis =>
      refine spells_parenthesizedIf ?_ nested
      have operandSpelled := operandHypothesis nonnegative true
      have spelled := spells_bang operandSpelled (head?_code operand nonnegative)
      simpa using spelled
  | binary offset operator left right leftHypothesis rightHypothesis =>
      obtain ⟨leftNonnegative, rightNonnegative⟩ := nonnegative
      rw [code, lexemes, isChecked]
      split
      · exact spells_parenthesizedIf
          (spells_checkedCall (leftHypothesis leftNonnegative false)
            (rightHypothesis rightNonnegative false)) nested
      · refine spells_parenthesizedIf ?_ nested
        have between :
            Completes (' ' :: operator.spelling.toList ++ [' '])
              [.mark operator.generated.mark] := by
          cases operator <;> rfl
        have spelled :=
          (leftHypothesis leftNonnegative true).append (by decide)
            (between.spells_append (rightHypothesis rightNonnegative true))
        simpa using spelled
  | conditional offset condition whenTrue whenFalse conditionHypothesis trueHypothesis
      falseHypothesis =>
      obtain ⟨conditionNonnegative, trueNonnegative, falseNonnegative⟩ := nonnegative
      exact spells_parenthesizedIf
        (spells_conditional (conditionHypothesis conditionNonnegative false)
          (trueHypothesis trueNonnegative false) (falseHypothesis falseNonnegative false)) nested

end Expression

/-- The code of a rule spells its lexemes. -/
theorem Rule.spells_code
    (rule : Rule)
    (nonnegative : rule.expression.LiteralsNonnegative) :
    Spells rule.code.toList rule.lexemes := by
  have expressionSpelled := rule.expression.spells_code nonnegative false
  unfold Rule.code Rule.lexemes
  cases rule.type with
  | integer =>
      exact expressionSpelled
  | boolean =>
      have one : Spells "1".toList [.number 1] := rfl
      have zero : Spells "0".toList [.number 0] := rfl
      have spelled := spells_conditional expressionSpelled one zero
      simpa using spelled

/-! ## From lexemes to terms -/

/-- Lexemes are read as a term in each place where code of an expression stands: by themselves, as
an operand, and as the value of a block. -/
structure ReadsAs
    (plain nested : List Generated.Lexeme)
    (term : Term) :
    Prop where
  whole :
    ∀ position rest, closesTerm position rest →
      readLevel position Generated.loosestLevel (plain ++ rest) = some (term, rest)
  operand :
    ∀ position rest, closesUnit position rest →
      Generated.readNegation position (nested ++ rest) = some (term, rest)
  value :
    ∀ rest, closesTerm .free rest →
      readValue (plain ++ rest) = some (term, rest)

namespace ReadsAs

/-- What is read by itself is an operand in parentheses. -/
theorem of_whole
    {lexemes : List Generated.Lexeme}
    {term : Term}
    (whole :
      ∀ position rest, closesTerm position rest →
        readLevel position Generated.loosestLevel (lexemes ++ rest) = some (term, rest))
    (value :
      ∀ rest, closesTerm .free rest →
        readValue (lexemes ++ rest) = some (term, rest)) :
    ReadsAs lexemes (surroundedIf true lexemes) term := by
  refine ⟨whole, fun position rest closed => ?_, value⟩
  have inner := whole .free (.mark .closeParenthesis :: rest) rfl
  have read := readNegation_parenthesized inner closed
  simpa [surroundedIf] using read

/-- What is an operand without parentheses is read by itself. -/
theorem of_operand
    {lexemes : List Generated.Lexeme}
    {term : Term}
    (operand :
      ∀ position rest, closesUnit position rest →
        Generated.readNegation position (lexemes ++ rest) = some (term, rest))
    (noKeyword : ∀ keyword further rest, lexemes ++ rest ≠ .keyword keyword :: further) :
    ReadsAs lexemes lexemes term := by
  have whole :
      ∀ position rest, closesTerm position rest →
        readLevel position Generated.loosestLevel (lexemes ++ rest) = some (term, rest) :=
    fun position rest closed =>
      readLevel_of_readNegation (operand position rest (closesUnit_of_closesTerm closed)) closed
  exact ⟨whole, operand, fun rest closed =>
    readValue_of_readLevel (whole .free rest closed) fun keyword further =>
      noKeyword keyword further rest⟩

/-- An operand may stand in parentheses that it does not need. -/
theorem surrounded
    {lexemes nested : List Generated.Lexeme}
    {term : Term}
    (reads : ReadsAs lexemes nested term) :
    ReadsAs lexemes (surroundedIf true lexemes) term :=
  of_whole reads.whole reads.value

theorem number
    {value : Nat}
    (bounded : value ≤ largestLiteral) :
    ReadsAs [.number value] [.number value] (.number (Int64.ofNat value)) :=
  of_operand (fun _ _ closed => readNegation_number bounded closed) (by simp)

theorem negation
    {plain nested : List Generated.Lexeme}
    {operand : Term}
    (reads : ReadsAs plain nested operand) :
    ReadsAs (.mark .bang :: nested) (surroundedIf true (.mark .bang :: nested))
      (.negation operand) := by
  have bare :
      ∀ position rest, closesUnit position rest →
        Generated.readNegation position (.mark .bang :: nested ++ rest) =
          some (.negation operand, rest) :=
    fun position rest closed => readNegation_bang (reads.operand position rest closed)
  exact (of_operand bare (by simp)).surrounded

theorem checkedCall
    {leftPlain leftNested rightPlain rightNested : List Generated.Lexeme}
    {left right : Term}
    (leftReads : ReadsAs leftPlain leftNested left)
    (rightReads : ReadsAs rightPlain rightNested right) :
    ReadsAs (checkedCall leftPlain rightPlain)
      (surroundedIf true (Plural.checkedCall leftPlain rightPlain))
      (.method (.call ["i64", "checked_rem"] [left, right]) "unwrap_or" [.number 0]) := by
  have bare :
      ∀ position rest, closesUnit position rest →
        Generated.readNegation position (Plural.checkedCall leftPlain rightPlain ++ rest) =
          some (.method (.call ["i64", "checked_rem"] [left, right]) "unwrap_or" [.number 0],
            rest) := by
    intro position rest closed
    have zeroRead :=
      readArguments_last ((number (Nat.zero_le _)).whole .free (.mark .closeParenthesis :: rest) rfl)
    have accessed :=
      continueAccess_method (.call ["i64", "checked_rem"] [left, right]) "unwrap_or" zeroRead closed
    have rightRead :=
      readArguments_last (rightReads.whole .free
        (.mark .closeParenthesis :: .mark .dot :: .name "unwrap_or" :: .mark .openParenthesis ::
          .number 0 :: .mark .closeParenthesis :: rest) rfl)
    have operandsRead :=
      readArguments_more (leftReads.whole .free (.mark .comma :: _) rfl) rightRead
    have read :=
      readNegation_of_access (readPrimary_call position "i64" "checked_rem" operandsRead)
        (by simp; omega) accessed (by simp; omega)
    simpa [Plural.checkedCall] using read
  exact (of_operand bare (by simp [Plural.checkedCall])).surrounded

theorem binary
    {leftPlain leftNested rightPlain rightNested : List Generated.Lexeme}
    {left right : Term}
    (operator : Operator)
    (leftReads : ReadsAs leftPlain leftNested left)
    (rightReads : ReadsAs rightPlain rightNested right)
    (noKeyword : ∀ keyword further rest, leftNested ++ rest ≠ .keyword keyword :: further) :
    ReadsAs (leftNested ++ .mark operator.mark :: rightNested)
      (surroundedIf true (leftNested ++ .mark operator.mark :: rightNested))
      (.binary operator left right) := by
  have whole :
      ∀ position rest, closesTerm position rest →
        readLevel position Generated.loosestLevel
            ((leftNested ++ .mark operator.mark :: rightNested) ++ rest) =
          some (.binary operator left right, rest) := by
    intro position rest closed
    have leftRead :=
      leftReads.operand position (.mark operator.mark :: (rightNested ++ rest))
        (closesUnit_mark position operator _)
    have rightRead := rightReads.operand position rest (closesUnit_of_closesTerm closed)
    have read := readLevel_binary leftRead rightRead closed
    simpa using read
  refine of_whole whole fun rest closed =>
    readValue_of_readLevel (whole .free rest closed) fun keyword further => ?_
  rw [List.append_assoc]
  exact noKeyword keyword further _

theorem conditionalBlocks_append
    (condition whenTrue whenFalse rest : List Generated.Lexeme) :
    conditionalBlocks condition whenTrue whenFalse ++ rest =
      .keyword .conditional :: (condition ++ .mark .openBrace ::
        (whenTrue ++ .mark .closeBrace :: .keyword .alternative :: .mark .openBrace ::
          (whenFalse ++ .mark .closeBrace :: rest))) := by
  simp [conditionalBlocks]

theorem conditional
    {conditionPlain conditionNested truePlain trueNested falsePlain falseNested :
      List Generated.Lexeme}
    {condition whenTrue whenFalse : Term}
    (conditionReads : ReadsAs conditionPlain conditionNested condition)
    (trueReads : ReadsAs truePlain trueNested whenTrue)
    (falseReads : ReadsAs falsePlain falseNested whenFalse) :
    ReadsAs (conditionalBlocks conditionPlain truePlain falsePlain)
      (surroundedIf true (conditionalBlocks conditionPlain truePlain falsePlain))
      (.conditional condition whenTrue whenFalse) := by
  have falseRead := fun rest => falseReads.value (.mark .closeBrace :: rest) rfl
  have trueRead := fun rest =>
    trueReads.value
      (.mark .closeBrace :: .keyword .alternative :: .mark .openBrace ::
        (falsePlain ++ .mark .closeBrace :: rest)) rfl
  have conditionRead := fun rest =>
    conditionReads.whole .guarded (.mark .openBrace :: rest) rfl
  have read := fun rest =>
    readConditional_of_parts (conditionRead _) (trueRead rest) (falseRead rest)
  refine of_whole (fun position rest closed => ?_) fun rest closed => ?_
  · rw [conditionalBlocks_append]
    exact readLevel_of_readNegation
      (readNegation_conditional (read rest) (closesUnit_of_closesTerm closed)) closed
  · rw [conditionalBlocks_append, readValue]
    exact read rest

end ReadsAs

namespace Expression

/-- An operand starts with no keyword. -/
theorem lexemes_true_ne_keyword
    (expression : Expression)
    (keyword : Keyword)
    (further rest : List Generated.Lexeme) :
    expression.lexemes true ++ rest ≠ .keyword keyword :: further := by
  cases expression with
  | «variable» offset name =>
      simp [lexemes]
  | literal offset value =>
      simp [lexemes]
  | negation offset operand =>
      simp [lexemes, surroundedIf]
  | binary offset operator left right =>
      rw [lexemes]
      split <;> simp [surroundedIf]
  | conditional offset condition whenTrue whenFalse =>
      simp [lexemes, surroundedIf]

theorem toNat_toInt_le_largestLiteral
    (value : Int64) :
    value.toInt.toNat ≤ largestLiteral := by
  have bounded := value.toInt_lt
  simp only [largestLiteral]
  omega

theorem ofNat_toNat_toInt
    {value : Int64}
    (nonnegative : 0 ≤ value.toInt) :
    Int64.ofNat value.toInt.toNat = value := by
  rw [← Int64.ofInt_eq_ofNat, Int.toNat_of_nonneg nonnegative, Int64.ofInt_toInt]

/-- The lexemes of an expression are read back as its term. -/
theorem readsAs_lexemes
    (expression : Expression)
    (nonnegative : expression.LiteralsNonnegative) :
    ReadsAs (expression.lexemes false) (expression.lexemes true) expression.term := by
  induction expression with
  | «variable» offset name =>
      exact .of_operand (fun position rest closed => readNegation_name "n" closed)
        (by simp [lexemes])
  | literal offset value =>
      have reads := ReadsAs.number (toNat_toInt_le_largestLiteral value)
      rw [ofNat_toNat_toInt nonnegative] at reads
      exact reads
  | negation offset operand operandHypothesis =>
      exact (operandHypothesis nonnegative).negation
  | binary offset operator left right leftHypothesis rightHypothesis =>
      have leftReads := leftHypothesis nonnegative.1
      have rightReads := rightHypothesis nonnegative.2
      rw [lexemes, lexemes, term]
      split
      · exact leftReads.checkedCall rightReads
      · exact leftReads.binary operator.generated rightReads (lexemes_true_ne_keyword left)
  | conditional offset condition whenTrue whenFalse conditionHypothesis trueHypothesis
      falseHypothesis =>
      obtain ⟨conditionNonnegative, trueNonnegative, falseNonnegative⟩ := nonnegative
      exact (conditionHypothesis conditionNonnegative).conditional
        (trueHypothesis trueNonnegative) (falseHypothesis falseNonnegative)

end Expression

/-- The lexemes of a rule are read back as its term. -/
theorem Rule.readsAs_lexemes
    (rule : Rule)
    (nonnegative : rule.expression.LiteralsNonnegative) :
    ∃ nested, ReadsAs rule.lexemes nested rule.term := by
  have expressionReads := rule.expression.readsAs_lexemes nonnegative
  unfold Rule.lexemes Rule.term
  cases rule.type with
  | integer =>
      exact ⟨_, expressionReads⟩
  | boolean =>
      have one : ReadsAs [.number 1] [.number 1] (.number 1) := .number (by decide)
      have zero : ReadsAs [.number 0] [.number 0] (.number 0) := .number (by decide)
      exact ⟨_, expressionReads.conditional one zero⟩

end Phrasebook.Plural
