import Phrasebook.Proofs.Code.PluralFunction
import Phrasebook.Proofs.Generated.FreeName

namespace Phrasebook

open Generated

/-!
# The quantity in generated code

Whether a rule mentions the quantity can be asked of its expression, of the lexemes of its code and
of the term that the code is read as, and the answers agree. So the function of a rule takes nothing
but its parameter from its surroundings, the parameter is called `n` just if the code names it, and
a rule whose parameter is unused selects one form for all quantities.
-/

namespace Plural

/-! ## Names in lexemes -/

/-- The names of the standard library that the code of a rule may hold. -/
def libraryNames :
    List String :=
  ["i64", "checked_rem", "unwrap_or"]

variable {name : String}

theorem name_mem_surroundedIf
    (needed : Bool)
    (lexemes : List Generated.Lexeme) :
    .name name ∈ surroundedIf needed lexemes ↔ .name name ∈ lexemes := by
  cases needed <;> simp [surroundedIf]

/-- A checked call adds only names of the standard library to those of its operands. -/
theorem name_mem_checkedCall
    (foreign : name ∉ libraryNames)
    (dividend divisor : List Generated.Lexeme) :
    .name name ∈ checkedCall dividend divisor ↔ .name name ∈ dividend ∨ .name name ∈ divisor := by
  simp only [libraryNames, List.mem_cons, List.not_mem_nil, or_false, not_or] at foreign
  simp [checkedCall, foreign]

theorem name_mem_conditionalBlocks
    (condition whenTrue whenFalse : List Generated.Lexeme) :
    .name name ∈ conditionalBlocks condition whenTrue whenFalse ↔
      (.name name ∈ condition ∨ .name name ∈ whenTrue) ∨ .name name ∈ whenFalse := by
  simp [conditionalBlocks, or_assoc]

namespace Expression

/-- The quantity is the only name of an expression that is not in the standard library, whatever the
source text calls it. -/
theorem name_mem_lexemes
    (foreign : name ∉ libraryNames)
    (expression : Expression)
    (nested : Bool) :
    .name name ∈ expression.lexemes nested ↔
      name = "n" ∧ expression.mentionsQuantity = true := by
  induction expression generalizing nested with
  | «variable» offset spelling =>
      simp [lexemes, mentionsQuantity]
  | literal offset value =>
      simp [lexemes, mentionsQuantity]
  | negation offset operand operandHypothesis =>
      rw [lexemes, name_mem_surroundedIf, mentionsQuantity, ← operandHypothesis true]
      simp
  | binary offset operator left right leftHypothesis rightHypothesis =>
      rw [lexemes, mentionsQuantity, Bool.or_eq_true, and_or_left]
      split
      · rw [name_mem_surroundedIf, name_mem_checkedCall foreign, leftHypothesis, rightHypothesis]
      · rw [name_mem_surroundedIf, ← leftHypothesis true, ← rightHypothesis true]
        simp
  | conditional offset condition whenTrue whenFalse conditionHypothesis trueHypothesis
      falseHypothesis =>
      rw [lexemes, name_mem_surroundedIf, name_mem_conditionalBlocks, conditionHypothesis,
        trueHypothesis, falseHypothesis, mentionsQuantity, Bool.or_eq_true, Bool.or_eq_true,
        and_or_left, and_or_left]

/-- The quantity is the only name that the term of an expression takes from its surroundings. -/
theorem mem_freeNames_term
    (expression : Expression) :
    name ∈ expression.term.freeNames ↔ name = "n" ∧ expression.mentionsQuantity = true := by
  induction expression with
  | «variable» offset spelling =>
      simp [term, Term.freeNames, freeInPath, mentionsQuantity]
  | literal offset value =>
      simp [term, Term.freeNames, mentionsQuantity]
  | negation offset operand operandHypothesis =>
      rw [term, Term.freeNames, operandHypothesis, mentionsQuantity]
  | binary offset operator left right leftHypothesis rightHypothesis =>
      rw [term, mentionsQuantity, Bool.or_eq_true, and_or_left, ← leftHypothesis, ← rightHypothesis]
      split <;> simp [Term.freeNames, freeInAll, freeInPath]
  | conditional offset condition whenTrue whenFalse conditionHypothesis trueHypothesis
      falseHypothesis =>
      rw [term, Term.freeNames, List.mem_append, List.mem_append, conditionHypothesis,
        trueHypothesis, falseHypothesis, mentionsQuantity, Bool.or_eq_true, Bool.or_eq_true,
        and_or_left, and_or_left]

/-- An expression that does not mention the quantity has one value. -/
theorem valueAt_eq_of_unmentioned
    {expression : Expression}
    (unmentioned : expression.mentionsQuantity = false)
    (first second : Int64) :
    expression.valueAt first = expression.valueAt second := by
  induction expression with
  | «variable» offset spelling =>
      cases unmentioned
  | literal offset value =>
      rfl
  | negation offset operand operandHypothesis =>
      rw [valueAt, valueAt, operandHypothesis unmentioned]
  | binary offset operator left right leftHypothesis rightHypothesis =>
      rw [mentionsQuantity, Bool.or_eq_false_iff] at unmentioned
      rw [valueAt, valueAt, leftHypothesis unmentioned.1, rightHypothesis unmentioned.2]
  | conditional offset condition whenTrue whenFalse conditionHypothesis trueHypothesis
      falseHypothesis =>
      rw [mentionsQuantity, Bool.or_eq_false_iff, Bool.or_eq_false_iff] at unmentioned
      obtain ⟨⟨conditionUnmentioned, trueUnmentioned⟩, falseUnmentioned⟩ := unmentioned
      rw [valueAt, valueAt, conditionHypothesis conditionUnmentioned,
        trueHypothesis trueUnmentioned, falseHypothesis falseUnmentioned]

end Expression

namespace Rule

theorem name_mem_lexemes
    (foreign : name ∉ libraryNames)
    (rule : Rule) :
    .name name ∈ rule.lexemes ↔ name = "n" ∧ rule.mentionsQuantity = true := by
  rw [mentionsQuantity, ← rule.expression.name_mem_lexemes foreign false]
  unfold lexemes
  cases rule.type with
  | integer =>
      rfl
  | boolean =>
      simp [name_mem_conditionalBlocks]

theorem mem_freeNames_term
    (rule : Rule) :
    name ∈ rule.term.freeNames ↔ name = "n" ∧ rule.mentionsQuantity = true := by
  rw [mentionsQuantity, ← rule.expression.mem_freeNames_term]
  unfold term
  cases rule.type with
  | integer =>
      rfl
  | boolean =>
      simp [Term.freeNames]

end Rule

end Plural

namespace Code

/-! ## The parameter of the function of a rule -/

theorem quantityName_eq_n_iff
    {rule : Plural.Rule} :
    quantityName rule = "n" ↔ rule.mentionsQuantity = true := by
  cases mentioned : rule.mentionsQuantity <;> simp [quantityName, mentioned]

/-- Whether a term takes nothing but a parameter from its surroundings, and takes the parameter if
it is called `n`. -/
structure IsClosedUnder
    (parameter : String)
    (term : Term) :
    Prop where
  closed : ∀ name ∈ term.freeNames, name = parameter
  used : parameter = "n" → "n" ∈ term.freeNames

/-- What a term that is closed under a parameter takes from a scope is the meaning of the
parameter. -/
theorem IsClosedUnder.run_eq
    {parameter : String}
    {term : Term}
    {first second : Scope}
    (isClosed : IsClosedUnder parameter term)
    (agree : first.AgreeOn [parameter] second) :
    term.run first = term.run second :=
  term.run_eq_of_agreeOn (agree.mono fun name isFree =>
    List.mem_singleton.mpr (isClosed.closed name isFree))

theorem isClosedUnder_term
    (rule : Plural.Rule) :
    IsClosedUnder (quantityName rule) rule.term := by
  constructor
  · intro name isFree
    obtain ⟨rfl, mentioned⟩ := rule.mem_freeNames_term.mp isFree
    exact (quantityName_eq_n_iff.mpr mentioned).symm
  · intro isCalled
    exact rule.mem_freeNames_term.mpr ⟨rfl, quantityName_eq_n_iff.mp isCalled⟩

/-- Whether the code of a rule and the function around it agree about the quantity: the code holds
the name `n` just if the rule mentions the quantity, it is closed under the parameter that is
declared for it, and without the quantity the rule is constant. -/
structure AgreesAboutQuantity
    (rule : Plural.Rule) :
    Prop where
  spelled :
    ∃ lexemes,
      Spells rule.code.toList lexemes ∧
        (rule.mentionsQuantity = true ↔ .name "n" ∈ lexemes)
  closed :
    ∃ term,
      Term.readInside rule.code = some term ∧
        IsClosedUnder (quantityName rule) term ∧
        ∀ first second : Scope,
          first.AgreeOn [quantityName rule] second → term.run first = term.run second
  written :
    ∀ locale,
      pluralFunctionLines locale rule =
        .blank ::
          block ("fn " ++ pluralFunction locale ++ "(" ++ quantityName rule ++ ": i64) -> i64 \x7b")
            [.plain rule.code] "\x7d"
  emitted :
    ∀ locale : Locale,
      locale.IsNamed →
        ∃ lexemes function term,
          SpellsLines (pluralFunctionLines locale rule) lexemes ∧
            IsItems lexemes [.function function] ∧
            function.parameters = [quantityName rule] ∧
            function.term? = some term ∧
            IsClosedUnder (quantityName rule) term
  constant :
    rule.mentionsQuantity = false →
      ∀ first second, rule.evaluate first = rule.evaluate second

/-- The code of a compiled rule agrees with the function around it about the quantity. -/
theorem agreesAboutQuantity_of_compile
    {locale source : String}
    {forms : Nat}
    {rule : Plural.Rule}
    (compiled : Plural.Rule.compile locale forms source = .ok rule) :
    AgreesAboutQuantity rule := by
  obtain ⟨_, nonnegative⟩ := Plural.Rule.wellFormed_of_compile compiled
  obtain ⟨nested, reads⟩ := rule.readsAs_lexemes nonnegative
  have spells := rule.spells_code nonnegative
  have isClosed := isClosedUnder_term rule
  refine ⟨⟨rule.lexemes, spells, ?_⟩,
    ⟨rule.term, (Plural.read_of_spells spells reads).2, isClosed,
      fun first second => isClosed.run_eq⟩,
    fun locale => rfl, fun locale named => ?_, fun unmentioned first second => ?_⟩
  · have foreign : "n" ∉ Plural.libraryNames := by decide
    rw [rule.name_mem_lexemes foreign]
    simp
  · exact ⟨_, _, _, spellsLines_pluralFunctionLines named nonnegative,
      isItems_pluralFunctionLexemes locale rule, rfl,
      term?_pluralFunctionOf locale nonnegative, isClosed⟩
  · rw [Plural.Rule.evaluate, Plural.Rule.evaluate,
      Plural.Expression.valueAt_eq_of_unmentioned unmentioned first second]

/-- The quantity is called `value`, and the divisor is checked because it is no literal. -/
theorem agreesAboutQuantity_of_checked_value :
    let rule : Plural.Rule :=
      ⟨"xx", 2, "value % (value % 3) == 1",
        .binary 0 .equal
          (.binary 0 .remainder (.variable 0 "value")
            (.binary 9 .remainder (.variable 9 "value") (.literal 17 3)))
          (.literal 23 1),
        .boolean⟩
    Plural.Rule.compile "xx" 2 "value % (value % 3) == 1" = .ok rule ∧
      AgreesAboutQuantity rule := by
  intro rule
  have compiled : Plural.Rule.compile "xx" 2 "value % (value % 3) == 1" = .ok rule := by cbv
  exact ⟨compiled, agreesAboutQuantity_of_compile compiled⟩

end Code

end Phrasebook
