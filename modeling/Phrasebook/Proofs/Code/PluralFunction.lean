import Phrasebook.Code.Render
import Phrasebook.Proofs.Code.Layout
import Phrasebook.Proofs.Generated.ModuleReading
import Phrasebook.Proofs.Locale
import Phrasebook.Proofs.Plural.CodeExecution
import Phrasebook.Proofs.Plural.LiteralWidth
import Phrasebook.Proofs.Validation.Rules

namespace Phrasebook

open Generated

/-!
# Generated plural functions

The plural function of a locale is read as a function whose body is the term of the rule of the
locale, and its call returns the index that the rule computes, whether or not the rule mentions the
quantity.
-/

/-! ## Rules are balanced -/

namespace Plural

theorem balanced_surroundedIf
    (needed : Bool)
    {lexemes : List Generated.Lexeme}
    (balanced : Balanced lexemes) :
    Balanced (surroundedIf needed lexemes) := by
  cases needed with
  | false =>
      exact balanced
  | true =>
      exact .group rfl balanced .nil

theorem balanced_checkedCall
    {dividend divisor : List Generated.Lexeme}
    (dividendBalanced : Balanced dividend)
    (divisorBalanced : Balanced divisor) :
    Balanced (checkedCall dividend divisor) := by
  have operands : Balanced (dividend ++ .mark .comma :: divisor) :=
    dividendBalanced.append (.cons rfl divisorBalanced)
  have zero : Balanced [.number 0] := .singleton rfl
  have fallback :
      Balanced
        [.mark .dot, .name "unwrap_or", .mark .openParenthesis, .number 0,
          .mark .closeParenthesis] :=
    .cons rfl (.cons rfl (.group rfl zero .nil))
  have balanced :
      Balanced
        (.name "i64" :: .mark .pathSeparator :: .name "checked_rem" ::
          .mark .openParenthesis :: (dividend ++ .mark .comma :: divisor ++
            .mark .closeParenthesis ::
              [.mark .dot, .name "unwrap_or", .mark .openParenthesis, .number 0,
                .mark .closeParenthesis])) :=
    .cons rfl (.cons rfl (.cons rfl (.group rfl operands fallback)))
  simpa [checkedCall] using balanced

theorem balanced_conditionalBlocks
    {condition whenTrue whenFalse : List Generated.Lexeme}
    (conditionBalanced : Balanced condition)
    (trueBalanced : Balanced whenTrue)
    (falseBalanced : Balanced whenFalse) :
    Balanced (conditionalBlocks condition whenTrue whenFalse) := by
  have falseBlock : Balanced (.mark .openBrace :: (whenFalse ++ [.mark .closeBrace])) :=
    .group rfl falseBalanced .nil
  have alternative :
      Balanced
        (.keyword .alternative :: .mark .openBrace :: (whenFalse ++ [.mark .closeBrace])) :=
    .cons rfl falseBlock
  have balanced :
      Balanced
        (.keyword .conditional :: (condition ++ .mark .openBrace :: (whenTrue ++
          .mark .closeBrace :: .keyword .alternative :: .mark .openBrace ::
            (whenFalse ++ [.mark .closeBrace])))) :=
    .cons rfl (conditionBalanced.append (.group rfl trueBalanced alternative))
  simpa [conditionalBlocks] using balanced

theorem isGroupMark_operator
    (operator : Operator) :
    isGroupMark (.mark operator.mark) = false := by
  cases operator <;> rfl

theorem Expression.balanced_lexemes
    (nested : Bool)
    (expression : Expression) :
    Balanced (expression.lexemes nested) := by
  induction expression generalizing nested with
  | «variable» offset name =>
      exact .singleton rfl
  | literal offset value =>
      exact .singleton rfl
  | negation offset operand operandHypothesis =>
      exact balanced_surroundedIf nested (.cons rfl (operandHypothesis true))
  | binary offset operator left right leftHypothesis rightHypothesis =>
      rw [lexemes]
      split
      · exact balanced_surroundedIf nested
          (balanced_checkedCall (leftHypothesis false) (rightHypothesis false))
      · exact balanced_surroundedIf nested
          ((leftHypothesis true).append
            (.cons (isGroupMark_operator _) (rightHypothesis true)))
  | conditional offset condition whenTrue whenFalse conditionHypothesis trueHypothesis
      falseHypothesis =>
      exact balanced_surroundedIf nested
        (balanced_conditionalBlocks (conditionHypothesis false) (trueHypothesis false)
          (falseHypothesis false))

theorem Rule.balanced_lexemes
    (rule : Rule) :
    Balanced rule.lexemes := by
  have inner := rule.expression.balanced_lexemes false
  unfold Rule.lexemes
  cases rule.type with
  | integer =>
      exact inner
  | boolean =>
      exact balanced_conditionalBlocks inner (.singleton rfl) (.singleton rfl)

end Plural

namespace Code

/-! ## The function of a rule -/

/-- The name of the parameter of the plural function of a rule. -/
def quantityName
    (rule : Plural.Rule) :
    String :=
  if rule.mentionsQuantity then
    "n"
  else
    "_n"

/-- The parameter of the plural function of a rule. -/
def quantityDeclared
    (rule : Plural.Rule) :
    Declared where
  name := quantityName rule
  type := .named "i64"

/-- The plural function of a locale. -/
def pluralFunctionOf
    (locale : Locale)
    (rule : Plural.Rule) :
    Function where
  name := pluralFunction locale
  hasReceiver := false
  declared := [quantityDeclared rule]
  result := .named "i64"
  body := rule.lexemes

/-- The lexemes of the plural function of a locale. -/
def pluralFunctionLexemes
    (locale : Locale)
    (rule : Plural.Rule) :
    List Lexeme :=
  .keyword .function ::
    functionLexemes (pluralFunction locale) (declaredLexemes [quantityDeclared rule])
      (.named "i64") rule.lexemes

theorem spellsLines_pluralFunctionLines
    {locale : Locale}
    {rule : Plural.Rule}
    (named : locale.IsNamed)
    (nonnegative : rule.expression.LiteralsNonnegative) :
    SpellsLines (pluralFunctionLines locale rule) (pluralFunctionLexemes locale rule) := by
  have keyword : Completes "fn ".toList [.keyword .function] := by decide
  have parameter :
      Completes ('(' :: ((quantityName rule).toList ++ ": i64) -> i64 \x7b".toList))
        [.mark .openParenthesis, .name (quantityName rule), .mark .colon, .name "i64",
          .mark .closeParenthesis, .mark .thinArrow, .name "i64", .mark .openBrace] := by
    unfold quantityName
    split <;> decide
  have declaration := keyword.name named.isLegal_pluralFunction (by decide) parameter
  have opening :
      Spells
        ("fn " ++ pluralFunction locale ++ "(" ++ quantityName rule ++ ": i64) -> i64 \x7b").toList
        [.keyword .function, .name (pluralFunction locale), .mark .openParenthesis,
          .name (quantityName rule), .mark .colon, .name "i64", .mark .closeParenthesis,
          .mark .thinArrow, .name "i64", .mark .openBrace] := by
    simpa [String.toList_append] using declaration.spells
  have body : SpellsLines [.plain rule.code] rule.lexemes :=
    .singleton (rule.spells_code nonnegative)
  have lines := (SpellsLines.braced opening body).blank
  simpa [pluralFunctionLines, quantityName, pluralFunctionLexemes, functionLexemes,
    declaredLexemes, quantityDeclared, Declared.lexemes, WrittenType.lexemes] using lines

/-- The plural function of a locale is an item by itself. -/
theorem isItems_pluralFunctionLexemes
    (locale : Locale)
    (rule : Plural.Rule) :
    IsItems (pluralFunctionLexemes locale rule) [.function (pluralFunctionOf locale rule)] := by
  refine .single fun rest => ⟨_, rfl, ?_⟩
  exact readBareItem_function
    (readFunction_functionLexemes (pluralFunction locale) (balanced_declaredLexemes _)
      (readReceiver_declaredLexemes _) (readNames_declaredLexemes [quantityDeclared rule])
      (.named "i64") rule.balanced_lexemes rest)

/-- The body of a plural function is read as the term of its rule. -/
theorem term?_pluralFunctionOf
    (locale : Locale)
    {rule : Plural.Rule}
    (nonnegative : rule.expression.LiteralsNonnegative) :
    (pluralFunctionOf locale rule).term? = some rule.term := by
  obtain ⟨nested, reads⟩ := rule.readsAs_lexemes nonnegative
  have read := reads.value [] rfl
  rw [List.append_nil] at read
  simp [Function.term?, pluralFunctionOf, read, whole]

/-- The plural function of a locale is accepted just if the literals of its rule are of their
types. -/
theorem isAccepted_pluralFunctionOf
    {rule : Plural.Rule}
    (locale : Locale)
    (typed : Plural.HasType rule.expression rule.type)
    (nonnegative : rule.expression.LiteralsNonnegative) :
    (pluralFunctionOf locale rule).isAccepted = rule.literalsFit := by
  have declares : (pluralFunctionOf locale rule).declaresVariables := by
    have names : (pluralFunctionOf locale rule).parameters = [quantityName rule] := rfl
    rw [Function.declaresVariables_iff, names, quantityName]
    split <;> decide
  have body := term?_pluralFunctionOf locale nonnegative
  have result : (pluralFunctionOf locale rule).result = .named "i64" := rfl
  simp [Function.isAccepted, declares, body, result, Plural.Rule.fitsWidth_term typed]

/-- The call of the plural function of a locale returns the index that its rule computes. -/
theorem run_pluralFunctionOf
    {locale : Locale}
    {rule : Plural.Rule}
    (isRule : Validation.IsRuleOf locale rule)
    (fits : rule.literalsFit)
    (functions : String → List Value → Outcome Value)
    (quantity : Int64) :
    (pluralFunctionOf locale rule).run functions [] [.integer quantity] =
      .ok (.integer (rule.evaluate quantity)) := by
  obtain ⟨typed, nonnegative⟩ := Plural.Rule.wellFormed_of_compile isRule.compiled
  have bound :
      rule.mentionsQuantity →
        List.lookup "n" [(quantityName rule, Value.integer quantity)] =
          some (.integer quantity) := by
    intro mentioned
    rw [quantityName, if_pos mentioned]
    rfl
  have accepted : (pluralFunctionOf locale rule).isAccepted := by
    rw [isAccepted_pluralFunctionOf locale typed nonnegative]
    exact fits
  have body := term?_pluralFunctionOf locale nonnegative
  rw [Function.run_of_isAccepted accepted body rfl]
  exact Plural.Rule.run_term typed nonnegative bound

/-- A plural function mentions no type but that of the quantity. -/
theorem typeNames_pluralFunctionOf
    {rule : Plural.Rule}
    (locale : Locale)
    (nonnegative : rule.expression.LiteralsNonnegative) :
    ∀ name ∈ (pluralFunctionOf locale rule).typeNames, name = "i64" := by
  have called := rule.calledTypes_term
  have body := term?_pluralFunctionOf locale nonnegative
  have signature :
      (pluralFunctionOf locale rule).declared.filterMap (·.type.name?) ++
          (pluralFunctionOf locale rule).result.name?.toList =
        ["i64", "i64"] :=
    rfl
  simpa [Function.typeNames, body, signature] using called

end Code

end Phrasebook
