import Phrasebook.Code.Accessor
import Phrasebook.Proofs.Code.Layout
import Phrasebook.Proofs.Code.StringExpression
import Phrasebook.Proofs.Locale

namespace Phrasebook.Code

open Generated

/-!
# Selections of variants

A selection keeps the pieces of its variants here, so that its code, its lexemes and its term can
be told from one value. Its term evaluates the string expression of one variant: of the one for the
form that the plural function returns, or of the last if there is none for that form.
-/

/-- A selection whose expressions are given by their pieces, and whose plural function by its
locale. -/
inductive PieceSelection where
  | always (pieces : List Placeholder.Piece)
  | byForm (origin : Locale) (initial : List (List Placeholder.Piece))
      (last : List Placeholder.Piece)

/-- The lexemes of the arms for forms that are told apart by their numbers. -/
def formArmLexemes
    (table : Placeholder.ArgumentTable)
    (form : Nat) :
    List (List Placeholder.Piece) →
    List (List Lexeme × List Lexeme)
  | [] => []
  | pieces :: variants =>
      ([.number form], stringLexemes table pieces) :: formArmLexemes table (form + 1) variants

/-- The arms for forms that are told apart by their numbers. -/
def formArms
    (table : Placeholder.ArgumentTable)
    (form : Nat) :
    List (List Placeholder.Piece) →
    List (Pattern × Term)
  | [] => []
  | pieces :: variants =>
      (.number form, stringTerm table pieces) :: formArms table (form + 1) variants

/-- The lexemes of the call of the plural function of a locale with a parameter. -/
def formCallLexemes
    (parameter : String)
    (origin : Locale) :
    List Lexeme :=
  [.name (pluralFunction origin), .mark .openParenthesis, .name parameter,
    .mark .closeParenthesis]

/-- The call of the plural function of a locale with a parameter. -/
def formCall
    (parameter : String)
    (origin : Locale) :
    Term :=
  .call [pluralFunction origin] [.path [parameter]]

namespace PieceSelection

/-- The selection that is written. -/
def code
    (table : Placeholder.ArgumentTable) :
    PieceSelection →
    Selection
  | .always pieces => .always (stringExpression table pieces)
  | .byForm origin initial last =>
      .byForm (pluralFunction origin) (initial.map (stringExpression table))
        (stringExpression table last)

/-- The lexemes of a selection. -/
def lexemes
    (table : Placeholder.ArgumentTable) :
    PieceSelection →
    List Lexeme
  | .always pieces => stringLexemes table pieces
  | .byForm origin initial last =>
      selectionLexemes (formCallLexemes Validation.quantityParameter origin)
        (formArmLexemes table 0 initial ++ [([.keyword .wildcard], stringLexemes table last)])

/-- The term of a selection. -/
def term
    (table : Placeholder.ArgumentTable) :
    PieceSelection →
    Term
  | .always pieces => stringTerm table pieces
  | .byForm origin initial last =>
      .selection (formCall Validation.quantityParameter origin)
        (formArms table 0 initial ++ [(.wildcard, stringTerm table last)])

/-- Whether the locale whose plural function a selection calls is one that can be named. -/
def IsNamed :
    PieceSelection →
    Prop
  | .always _ => True
  | .byForm origin _ _ => origin.IsNamed

end PieceSelection

/-! ## From code to lexemes -/

theorem spellsLines_formLines
    (table : Placeholder.ArgumentTable)
    (form : Nat)
    (variants : List (List Placeholder.Piece)) :
    SpellsLines (Selection.formLines form (variants.map (stringExpression table)))
      ((formArmLexemes table form variants).flatMap armLexemes) := by
  induction variants generalizing form with
  | nil =>
      exact .nil
  | cons pieces variants inductionHypothesis =>
      have number : Spells (toString form).toList [.number form] := by
        rw [Nat.toString_eq_ofList_toDigits, String.toList_ofList]
        exact spells_number form
      have arrow : Completes (' ' :: "=> ".toList) [.mark .thickArrow] := by decide
      have comma : Completes ",".toList [.mark .comma] := by decide
      have line :=
        (number.completes (by decide) arrow).append
          ((completes_stringExpression table pieces).append comma)
      have spelled :
          Spells (toString form ++ " => " ++ stringExpression table pieces ++ ",").toList
            (armLexemes ([.number form], stringLexemes table pieces)) := by
        simpa [String.toList_append, armLexemes] using line.spells
      rw [List.map_cons, Selection.formLines, formArmLexemes, List.flatMap_cons]
      exact (inductionHypothesis (form + 1)).cons spelled

/-- The lines of a selection have its lexemes, between those of the texts around it. -/
theorem spellsLines_selection
    {selection : PieceSelection}
    {before after : String}
    {beforeLexemes afterLexemes : List Lexeme}
    (table : Placeholder.ArgumentTable)
    (named : selection.IsNamed)
    (beforeComplete : Completes before.toList beforeLexemes)
    (afterComplete : Completes after.toList afterLexemes) :
    SpellsLines ((selection.code table).lines before after)
      (beforeLexemes ++ (selection.lexemes table ++ afterLexemes)) := by
  cases selection with
  | always pieces =>
      have line :=
        beforeComplete.append
          ((completes_stringExpression table pieces).append afterComplete)
      have spelled :
          Spells (before ++ stringExpression table pieces ++ after).toList
            (beforeLexemes ++ (stringLexemes table pieces ++ afterLexemes)) := by
        simpa [String.toList_append] using line.spells
      exact .singleton spelled
  | byForm origin initial last =>
      have keyword : Completes "match ".toList [.keyword .selection] := by decide
      have quantity :
          Completes ('(' :: "amount) \x7b".toList)
            [.mark .openParenthesis, .name "amount", .mark .closeParenthesis,
              .mark .openBrace] := by
        decide
      have call :=
        beforeComplete.append (keyword.name named.isLegal_pluralFunction (by decide) quantity)
      have opening :
          Spells
            (before ++ "match " ++ pluralFunction origin ++ "(" ++
              Validation.quantityParameter ++ ") \x7b").toList
            (beforeLexemes ++ .keyword .selection ::
              (formCallLexemes Validation.quantityParameter origin ++ [.mark .openBrace])) := by
        simpa [String.toList_append, formCallLexemes, Validation.quantityParameter]
          using call.spells
      have wildcard : Completes "_ => ".toList [.keyword .wildcard, .mark .thickArrow] := by
        decide
      have comma : Completes ",".toList [.mark .comma] := by decide
      have lastLine := wildcard.append ((completes_stringExpression table last).append comma)
      have lastSpelled :
          Spells ("_ => " ++ stringExpression table last ++ ",").toList
            (armLexemes ([.keyword .wildcard], stringLexemes table last)) := by
        simpa [String.toList_append, armLexemes] using lastLine.spells
      have brace : Completes "\x7d".toList [.mark .closeBrace] := by decide
      have closing :
          Spells ("\x7d" ++ after).toList (.mark .closeBrace :: afterLexemes) := by
        simpa [String.toList_append] using (brace.append afterComplete).spells
      have lastLines :
          SpellsLines [.plain ("_ => " ++ stringExpression table last ++ ",")]
            (armLexemes ([.keyword .wildcard], stringLexemes table last)) :=
        .singleton lastSpelled
      have arms := (spellsLines_formLines table 0 initial).append lastLines
      have lines := SpellsLines.block opening arms closing
      simpa [PieceSelection.code, Selection.lines, PieceSelection.lexemes, selectionLexemes]
        using lines

/-! ## Reading -/

theorem balanced_armLexemes
    {arm : List Lexeme × List Lexeme}
    (patternBalanced : Balanced arm.1)
    (valueBalanced : Balanced arm.2) :
    Balanced (armLexemes arm) :=
  patternBalanced.append (.cons rfl (valueBalanced.append (.singleton rfl)))

theorem balanced_selectionLexemes
    {subject : List Lexeme}
    {arms : List (List Lexeme × List Lexeme)}
    (subjectBalanced : Balanced subject)
    (armsBalanced : ∀ arm ∈ arms, Balanced arm.1 ∧ Balanced arm.2) :
    Balanced (selectionLexemes subject arms) := by
  have inside : Balanced (arms.flatMap armLexemes) :=
    .flatMap fun arm member =>
      balanced_armLexemes (armsBalanced arm member).1 (armsBalanced arm member).2
  exact .cons rfl (subjectBalanced.append (.group rfl inside .nil))

theorem balanced_formArmLexemes
    (table : Placeholder.ArgumentTable)
    (form : Nat)
    (variants : List (List Placeholder.Piece)) :
    ∀ arm ∈ formArmLexemes table form variants, Balanced arm.1 ∧ Balanced arm.2 := by
  induction variants generalizing form with
  | nil =>
      simp [formArmLexemes]
  | cons pieces variants inductionHypothesis =>
      rw [formArmLexemes, List.forall_mem_cons]
      exact ⟨⟨.singleton rfl, balanced_stringLexemes table pieces⟩,
        inductionHypothesis (form + 1)⟩

theorem balanced_formCallLexemes
    (parameter : String)
    (origin : Locale) :
    Balanced (formCallLexemes parameter origin) := by
  have argument : Balanced [.name parameter] := .singleton rfl
  exact .cons rfl (.group rfl argument .nil)

theorem PieceSelection.balanced_lexemes
    (table : Placeholder.ArgumentTable)
    (selection : PieceSelection) :
    Balanced (selection.lexemes table) := by
  cases selection with
  | always pieces =>
      exact balanced_stringLexemes table pieces
  | byForm origin initial last =>
      have subject := balanced_formCallLexemes Validation.quantityParameter origin
      refine balanced_selectionLexemes subject fun arm member => ?_
      rcases List.mem_append.mp member with inInitial | isLast
      · exact balanced_formArmLexemes table 0 initial arm inInitial
      · rw [List.mem_singleton] at isLast
        subst isLast
        exact ⟨.singleton rfl, balanced_stringLexemes table last⟩

theorem readsArm_formArms
    (table : Placeholder.ArgumentTable)
    (form : Nat)
    (variants : List (List Placeholder.Piece)) :
    List.Forall₂ ReadsArm (formArmLexemes table form variants) (formArms table form variants) := by
  induction variants generalizing form with
  | nil =>
      exact .nil
  | cons pieces variants inductionHypothesis =>
      exact .cons ⟨fun _ => rfl, readsValue_stringLexemes table pieces⟩
        (inductionHypothesis (form + 1))

theorem readNegation_formCallLexemes
    (parameter : String)
    (origin : Locale)
    {position : Position}
    {rest : List Lexeme}
    (closed : closesUnit position rest) :
    readNegation position (formCallLexemes parameter origin ++ rest) =
      some (formCall parameter origin, rest) := by
  have argumentRead :
      readLevel .free loosestLevel (.name parameter :: .mark .closeParenthesis :: rest) =
        some (.path [parameter], .mark .closeParenthesis :: rest) :=
    readLevel_of_readNegation (readNegation_name _ rfl) rfl
  exact readNegation_namedCall _ (readArguments_last argumentRead) closed

theorem PieceSelection.readsValue
    (table : Placeholder.ArgumentTable)
    (selection : PieceSelection) :
    ReadsValue (selection.lexemes table) (selection.term table) := by
  cases selection with
  | always pieces =>
      exact readsValue_stringLexemes table pieces
  | byForm origin initial last =>
      have lastReads :
          ReadsArm ([.keyword .wildcard], stringLexemes table last)
            (.wildcard, stringTerm table last) :=
        ⟨fun _ => rfl, readsValue_stringLexemes table last⟩
      exact readsValue_selection (fun rest closed => readNegation_formCallLexemes _ origin closed)
        (List.rel_append (readsArm_formArms table 0 initial) (.cons lastReads .nil))

/-! ## Acceptance -/

theorem fitsWidth_formCall
    (parameter : String)
    (origin : Locale)
    (fixed : Bool) :
    (formCall parameter origin).fitsWidth fixed :=
  rfl

theorem fitsWidth_formArms
    (table : Placeholder.ArgumentTable)
    (form : Nat)
    (variants : List (List Placeholder.Piece)) :
    ∀ arm ∈ formArms table form variants, ∀ fixed, arm.2.fitsWidth fixed := by
  induction variants generalizing form with
  | nil =>
      simp [formArms]
  | cons pieces variants inductionHypothesis =>
      rw [formArms, List.forall_mem_cons]
      exact ⟨fitsWidth_stringTerm table pieces, inductionHypothesis (form + 1)⟩

/-- No number stands in a selection but those that tell its arms apart. -/
theorem PieceSelection.fitsWidth_term
    (table : Placeholder.ArgumentTable)
    (selection : PieceSelection) :
    ∀ fixed, (selection.term table).fitsWidth fixed := by
  cases selection with
  | always pieces =>
      exact fitsWidth_stringTerm table pieces
  | byForm origin initial last =>
      apply Term.fitsWidth_selection
      · exact fitsWidth_formCall Validation.quantityParameter origin false
      · refine List.forall_mem_append.mpr ⟨fitsWidth_formArms table 0 initial, ?_⟩
        rw [List.forall_mem_singleton]
        exact fitsWidth_stringTerm table last

/-! ## Running -/

/-- The pieces that a selection chooses if its plural function returns a form. -/
def PieceSelection.piecesAt
    (form : Int64) :
    PieceSelection →
    List Placeholder.Piece
  | .always pieces => pieces
  | .byForm _ initial last =>
      if 0 ≤ form.toInt then
        initial[form.toInt.toNat]?.getD last
      else
        last

theorem runArms_formArms
    (table : Placeholder.ArgumentTable)
    (scope : Scope)
    (first : Nat)
    (initial : List (List Placeholder.Piece))
    (last : List Placeholder.Piece)
    (form : Int64) :
    runArms scope (.integer form)
        (formArms table first initial ++ [(.wildcard, stringTerm table last)]) =
      .ok (.text (textOf table
        (if (first : Int) ≤ form.toInt then
          initial[(form.toInt - first).toNat]?.getD last
        else
          last))) := by
  induction initial generalizing first with
  | nil =>
      simp [formArms, runArms, Pattern.fits, run_stringTerm]
  | cons pieces initial inductionHypothesis =>
      rw [formArms, List.cons_append, runArms]
      by_cases fits : (first : Int) = form.toInt
      · simp [Pattern.fits, fits, run_stringTerm]
      · have apart : Pattern.fits (.number first) (.integer form) = false := by
          simpa [Pattern.fits] using fits
        rw [apart, inductionHypothesis (first + 1)]
        by_cases above : (first : Int) ≤ form.toInt
        · have next : ((first + 1 : Nat) : Int) ≤ form.toInt := by omega
          have offset :
              (form.toInt - first).toNat = (form.toInt - ((first + 1 : Nat) : Int)).toNat + 1 := by
            omega
          rw [if_pos above, if_pos next, offset, List.getElem?_cons_succ]
          rfl
        · have notNext : ¬((first + 1 : Nat) : Int) ≤ form.toInt := by omega
          rw [if_neg above, if_neg notNext]
          rfl

/-- A scope in which the plural function of a locale returns a form for a parameter. -/
structure CallsForm
    (scope : Scope)
    (parameter : String)
    (origin : Locale)
    (form : Int64) :
    Prop where
  unhidden : scope.locals.lookup (pluralFunction origin) = none
  called :
    ∃ quantity,
      scope.locals.lookup parameter = some quantity ∧
        scope.functions (pluralFunction origin) [quantity] = .ok (.integer form)

theorem run_formCall
    {scope : Scope}
    {parameter : String}
    {origin : Locale}
    {form : Int64}
    (calls : CallsForm scope parameter origin form) :
    (formCall parameter origin).run scope = .ok (.integer form) := by
  obtain ⟨unhidden, quantity, bound, called⟩ := calls
  have argumentsRun := runAll_singleton (Term.run_variable bound)
  rw [formCall, Term.run_call _ argumentsRun, Scope.apply_function unhidden]
  exact called

/-- The form that a selection asks for in a scope is a certain one, if it asks for any. -/
def PieceSelection.Asks
    (scope : Scope)
    (form : Int64) :
    PieceSelection →
    Prop
  | .always _ => True
  | .byForm origin _ _ => CallsForm scope Validation.quantityParameter origin form

/-- A selection evaluates the string expression of the variant that it chooses. -/
theorem PieceSelection.run_term
    {selection : PieceSelection}
    {scope : Scope}
    {form : Int64}
    (table : Placeholder.ArgumentTable)
    (asks : selection.Asks scope form) :
    (selection.term table).run scope =
      .ok (.text (textOf table (selection.piecesAt form))) := by
  cases selection with
  | always pieces =>
      exact run_stringTerm table pieces scope
  | byForm origin initial last =>
      have called := run_formCall asks
      have arms := runArms_formArms table scope 0 initial last form
      simp only [Int.natCast_zero, Int.sub_zero] at arms
      rw [PieceSelection.term, Term.run, called]
      exact arms

end Phrasebook.Code
