import Phrasebook.Code.StringExpression
import Phrasebook.Proofs.Generated.Execution
import Phrasebook.Proofs.Generated.Literal
import Phrasebook.Proofs.Generated.ModuleReading

namespace Phrasebook.Code

open Generated

/-!
# Reading and running string expressions

The expression for some pieces is read as one call or one template, and evaluates to itself
whatever its names stand for.
-/

/-- The characters of the literal in the expression for some pieces, before they are escaped. -/
def literalText
    (table : Placeholder.ArgumentTable)
    (pieces : List Placeholder.Piece) :
    List Char :=
  if pieces.any isArgument then
    pieces.flatMap (templatePiece table)
  else
    (String.join (pieces.map plainText)).toList

/-- The characters of the literal in the expression for some pieces, as they are written. -/
def writtenLiteral
    (table : Placeholder.ArgumentTable)
    (pieces : List Placeholder.Piece) :
    List Char :=
  (literalText table pieces).flatMap Text.escaped

/-- The term of the expression for some pieces. -/
def stringTerm
    (table : Placeholder.ArgumentTable)
    (pieces : List Placeholder.Piece) :
    Term :=
  if pieces.any isArgument then
    .invocation "format" [.literal (writtenLiteral table pieces)]
  else
    .call ["String", "from"] [.literal (writtenLiteral table pieces)]

/-- What the expression for some pieces evaluates to. -/
def textOf
    (table : Placeholder.ArgumentTable)
    (pieces : List Placeholder.Piece) :
    TextExpression :=
  if pieces.any isArgument then
    .formatted (writtenLiteral table pieces)
  else
    .converted (writtenLiteral table pieces)

/-- The lexemes of the expression for some pieces. -/
def stringLexemes
    (table : Placeholder.ArgumentTable)
    (pieces : List Placeholder.Piece) :
    List Lexeme :=
  let called : List Lexeme :=
    if pieces.any isArgument then
      [.name "format", .mark .bang]
    else
      [.name "String", .mark .pathSeparator, .name "from"]
  called ++
    [.mark .openParenthesis, .literal (writtenLiteral table pieces), .mark .closeParenthesis]

theorem completes_stringExpression
    (table : Placeholder.ArgumentTable)
    (pieces : List Placeholder.Piece) :
    Completes (stringExpression table pieces).toList (stringLexemes table pieces) := by
  have closing : Completes [')'] [.mark .closeParenthesis] := rfl
  have quotation := completes_quoted (literalText table pieces)
  unfold stringExpression stringLexemes writtenLiteral
  unfold literalText at quotation ⊢
  by_cases arguments : pieces.any isArgument
  · have opening :
        Completes "format!(".toList [.name "format", .mark .bang, .mark .openParenthesis] := by
      decide
    simp only [arguments, if_true] at quotation ⊢
    simpa [String.toList_append] using opening.append (quotation.append closing)
  · have opening :
        Completes "String::from(".toList
          [.name "String", .mark .pathSeparator, .name "from", .mark .openParenthesis] := by
      decide
    simp only [arguments] at quotation ⊢
    simpa [String.toList_append, Text.quotedString] using
      opening.append (quotation.append closing)

theorem balanced_stringLexemes
    (table : Placeholder.ArgumentTable)
    (pieces : List Placeholder.Piece) :
    Balanced (stringLexemes table pieces) := by
  have literal : Balanced [.literal (writtenLiteral table pieces)] := .singleton rfl
  have inside :
      Balanced
        [.mark .openParenthesis, .literal (writtenLiteral table pieces),
          .mark .closeParenthesis] :=
    .group rfl literal .nil
  unfold stringLexemes
  split
  · exact (Balanced.cons rfl (.singleton rfl)).append inside
  · exact (Balanced.cons rfl (.cons rfl (.singleton rfl))).append inside

/-- The expression for some pieces is a unit wherever it stands. -/
theorem readNegation_stringLexemes
    (table : Placeholder.ArgumentTable)
    (pieces : List Placeholder.Piece)
    {position : Position}
    {rest : List Lexeme}
    (closed : closesUnit position rest) :
    readNegation position (stringLexemes table pieces ++ rest) =
      some (stringTerm table pieces, rest) := by
  have literalRead :
      readLevel .free loosestLevel
          (.literal (writtenLiteral table pieces) :: .mark .closeParenthesis :: rest) =
        some (.literal (writtenLiteral table pieces), .mark .closeParenthesis :: rest) :=
    readLevel_of_readNegation (readNegation_literal _ rfl) rfl
  have argumentsRead := readArguments_last literalRead
  unfold stringLexemes stringTerm
  split
  · exact readNegation_invocation "format" argumentsRead closed
  · exact readNegation_of_readPrimary
      (readPrimary_call position "String" "from" argumentsRead) (by simp; omega) closed

theorem readsValue_stringLexemes
    (table : Placeholder.ArgumentTable)
    (pieces : List Placeholder.Piece) :
    ReadsValue (stringLexemes table pieces) (stringTerm table pieces) := by
  refine readsValue_of_readNegation
    (fun rest closed => readNegation_stringLexemes table pieces closed) ?_
  intro keyword further rest
  unfold stringLexemes
  split <;> simp

/-- No number stands in the expression for some pieces. -/
theorem fitsWidth_stringTerm
    (table : Placeholder.ArgumentTable)
    (pieces : List Placeholder.Piece)
    (fixed : Bool) :
    (stringTerm table pieces).fitsWidth fixed := by
  unfold stringTerm
  split <;> rfl

theorem run_stringTerm
    (table : Placeholder.ArgumentTable)
    (pieces : List Placeholder.Piece)
    (scope : Scope) :
    (stringTerm table pieces).run scope = .ok (.text (textOf table pieces)) := by
  have literalRun :
      (Term.literal (writtenLiteral table pieces)).run scope =
        .ok (.literal (writtenLiteral table pieces)) := by
    rw [Term.run]
  have argumentsRun := runAll_singleton literalRun
  unfold stringTerm textOf
  split
  · exact Term.run_invocation "format" argumentsRun
  · exact Term.run_call ["String", "from"] argumentsRun

/-- A value is what the string expression for some pieces evaluates to, by itself. -/
def IsStringOf
    (table : Placeholder.ArgumentTable)
    (pieces : List Placeholder.Piece)
    (value : Value) :
    Prop :=
  ∃ term,
    Term.read (stringExpression table pieces) = some term ∧
      ∀ scope, term.run scope = .ok value

theorem isStringOf_textOf
    (table : Placeholder.ArgumentTable)
    (pieces : List Placeholder.Piece) :
    IsStringOf table pieces (.text (textOf table pieces)) := by
  have spelled := (completes_stringExpression table pieces).spells
  have read :
      readLevel .free loosestLevel (stringLexemes table pieces ++ []) =
        some (stringTerm table pieces, []) :=
    readLevel_of_readNegation (readNegation_stringLexemes table pieces rfl) rfl
  rw [List.append_nil] at read
  unfold Spells at spelled
  refine ⟨stringTerm table pieces, ?_, run_stringTerm table pieces⟩
  simp [Term.read, spelled, read, whole]

end Phrasebook.Code
