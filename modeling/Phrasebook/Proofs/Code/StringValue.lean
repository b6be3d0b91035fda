import Phrasebook.Proofs.Code.StringExpression
import Phrasebook.Proofs.Generated.TextValue
import Phrasebook.Proofs.Identifier

namespace Phrasebook.Code

open Generated

/-!
# Values of string expressions

The string that the expression for some pieces evaluates to is made of the texts as they are and of
the values of the arguments. The pieces are escaped twice, as a template and as a literal, and
reading undoes the two in reverse order.
-/

/-! ## Literals on one line -/

/-- Whether a text could be broken into lines at a character. -/
def isLineBreak
    (character : Char) :
    Bool :=
  ['\n', '\x0B', '\x0C', '\r', '\u0085', '\u2028', '\u2029'].contains character

/-- Whether a text has no line break. -/
def IsUnbroken
    (text : List Char) :
    Prop :=
  text.all (!isLineBreak ·)

theorem IsUnbroken.append
    {first second : List Char}
    (firstUnbroken : IsUnbroken first)
    (secondUnbroken : IsUnbroken second) :
    IsUnbroken (first ++ second) := by
  rw [IsUnbroken, List.all_append, firstUnbroken, secondUnbroken]
  rfl

theorem isUnbroken_hexadecimal
    (number : Nat) :
    IsUnbroken (Text.hexadecimal number) := by
  refine List.all_eq_true.mpr fun character member => ?_
  obtain ⟨digit, rfl⟩ := Text.exists_digitChar_of_mem_toDigits (by decide) _ member
  have noBreak :
      ∀ lineBreak, isLineBreak lineBreak = true → digit.digitChar ≠ lineBreak := by
    simp only [isLineBreak, List.contains_iff_mem, List.mem_cons, List.not_mem_nil, or_false]
    rintro lineBreak (rfl | rfl | rfl | rfl | rfl | rfl | rfl) <;>
      exact Nat.digitChar_ne _ (by decide)
  simpa using fun isBreak => noBreak _ isBreak rfl

/-- A line break has a short escape or is hidden. -/
theorem isLineBreak_of_shown
    {character : Char}
    (noReturn : character ≠ '\r')
    (noNewline : character ≠ '\n')
    (shown : Text.isHidden character = false) :
    isLineBreak character = false := by
  refine Bool.eq_false_iff.mpr fun isBreak => Bool.false_ne_true (shown.symm.trans ?_)
  have other :
      character = '\x0B' ∨ character = '\x0C' ∨ character = '\u0085' ∨ character = '\u2028' ∨
        character = '\u2029' := by
    simpa [isLineBreak, noReturn, noNewline] using isBreak
  rcases other with rfl | rfl | rfl | rfl | rfl <;> decide +kernel

/-- The written form of a character has no line break. -/
theorem isUnbroken_escaped
    (character : Char) :
    IsUnbroken (Text.escaped character) := by
  unfold Text.escaped
  iterate 6
    split
    · rfl
  split
  · have opening : IsUnbroken ['\\', 'u', '{'] := rfl
    have closing : IsUnbroken ['}'] := rfl
    exact (opening.append (isUnbroken_hexadecimal _)).append closing
  · rename_i _ _ noReturn noNewline _ _ shown
    simp [IsUnbroken, isLineBreak_of_shown noReturn noNewline (Bool.eq_false_iff.mpr shown)]

theorem isUnbroken_quoted
    (text : List Char) :
    IsUnbroken (Text.quoted text) := by
  have inside : IsUnbroken (text.flatMap Text.escaped) := by
    refine List.all_eq_true.mpr fun character member => ?_
    obtain ⟨original, -, written⟩ := List.mem_flatMap.mp member
    exact List.all_eq_true.mp (isUnbroken_escaped original) character written
  have mark : IsUnbroken ['\"'] := rfl
  exact (mark.append inside).append mark

/-- The expression for some pieces stands on one line. -/
theorem isUnbroken_stringExpression
    (table : Placeholder.ArgumentTable)
    (pieces : List Placeholder.Piece) :
    IsUnbroken (stringExpression table pieces).toList := by
  have closing : IsUnbroken [')'] := rfl
  unfold stringExpression
  split
  · have opening : IsUnbroken "format!(".toList := rfl
    simpa [String.toList_append] using (opening.append (isUnbroken_quoted _)).append closing
  · have opening : IsUnbroken "String::from(".toList := rfl
    simpa [String.toList_append, Text.quotedString] using
      (opening.append (isUnbroken_quoted _)).append closing

/-! ## Templates -/

/-- The parts of a template that a piece makes. -/
def partsOf
    (table : Placeholder.ArgumentTable) :
    Placeholder.Piece →
    List TemplatePart
  | .text run => run.toList.map .character
  | .argument index => [.parameter (parameterName table index)]

theorem templateParts?_templateCharacter
    (character : Char)
    (text : List Char) :
    templateParts? .nothing (templateCharacter character ++ text) =
      (templateParts? .nothing text).map (.character character :: ·) := by
  unfold templateCharacter
  split
  · rename_i opens
    simp [templateParts?, opens]
  · rename_i noOpening
    split
    · rename_i closes
      simp [templateParts?, closes]
    · rename_i noClosing
      simp [templateParts?, noOpening, noClosing]

theorem templateParts?_text
    (run text : List Char) :
    templateParts? .nothing (run.flatMap templateCharacter ++ text) =
      (templateParts? .nothing text).map (run.map .character ++ ·) := by
  induction run with
  | nil =>
      simp
  | cons character run inductionHypothesis =>
      rw [List.flatMap_cons, List.append_assoc, templateParts?_templateCharacter,
        inductionHypothesis, Option.map_map]
      rfl

theorem templateParts?_argument
    {name : List Char}
    (isName : isParameterName name)
    (text : List Char) :
    templateParts? .nothing ('{' :: name ++ '}' :: text) =
      (templateParts? .nothing text).map (.parameter (String.ofList name) :: ·) := by
  have shape := isName
  rw [isParameterName, Bool.and_eq_true] at shape
  rw [List.cons_append, templateParts?, if_pos rfl,
    templateParts?_name [] (Identifier.isPart_of_isName shape.1) isName]
  rfl

/-- The template for some pieces is read as the parts that the pieces make. -/
theorem templateParts?_pieces
    {table : Placeholder.ArgumentTable}
    {pieces : List Placeholder.Piece}
    (named :
      ∀ index, .argument index ∈ pieces → isParameterName (parameterName table index).toList) :
    templateParts? .nothing (pieces.flatMap (templatePiece table)) =
      some (pieces.flatMap (partsOf table)) := by
  induction pieces with
  | nil =>
      rfl
  | cons piece pieces inductionHypothesis =>
      have further := inductionHypothesis fun index isMember =>
        named index (List.mem_cons_of_mem _ isMember)
      rw [List.flatMap_cons, List.flatMap_cons]
      cases piece with
      | text run =>
          rw [templatePiece, templateParts?_text, further]
          rfl
      | argument index =>
          have read := templateParts?_argument (named index List.mem_cons_self)
            (pieces.flatMap (templatePiece table))
          rw [String.ofList_toList, further] at read
          simpa [templatePiece, partsOf] using read

/-! ## Values of arguments -/

/-- The parameters of a message with the values that are given for its arguments. -/
def given
    (table : Placeholder.ArgumentTable)
    (values : Nat → ArgumentValue) :
    List (String × ArgumentValue) :=
  table.arguments.map fun argument => (argument.name, values argument.index)

/-- A piece where the arguments have values. -/
def pieceValue
    (values : Nat → ArgumentValue) :
    Placeholder.Piece →
    List Char
  | .text run => run.toList
  | .argument index => (values index).shown

/-- The parameter for a declared argument bears the name of an argument at that index. -/
theorem exists_argument_of_declared
    {table : Placeholder.ArgumentTable}
    {index : Nat}
    (declared : ∃ argument ∈ table.arguments, argument.index = index) :
    ∃ argument ∈ table.arguments,
      argument.index = index ∧ parameterName table index = argument.name := by
  obtain ⟨argument, isMember, same⟩ := declared
  have isFound : (table.arguments.find? (·.index == index)).isSome :=
    List.find?_isSome.mpr ⟨argument, isMember, by simpa using same⟩
  obtain ⟨first, found⟩ := Option.isSome_iff_exists.mp isFound
  refine ⟨first, List.mem_of_find?_eq_some found, ?_, by rw [parameterName, found]⟩
  simpa using List.find?_some found

theorem lookup_given
    {arguments : List Placeholder.Argument}
    (distinct : (arguments.map (·.name)).Nodup)
    (values : Nat → ArgumentValue)
    {argument : Placeholder.Argument}
    (isMember : argument ∈ arguments) :
    (arguments.map fun argument => (argument.name, values argument.index)).lookup argument.name =
      some (values argument.index) := by
  induction arguments with
  | nil =>
      cases isMember
  | cons first further inductionHypothesis =>
      rw [List.map_cons, List.nodup_cons] at distinct
      rw [List.map_cons, List.lookup_cons]
      rcases List.mem_cons.mp isMember with rfl | later
      · simp
      · have otherName : (argument.name == first.name) = false :=
          beq_eq_false_iff_ne.mpr fun same =>
            distinct.1 (same ▸ List.mem_map_of_mem later)
        rw [otherName]
        exact inductionHypothesis distinct.2 later

theorem fill?_characters
    (parameters : List (String × ArgumentValue))
    (run : List Char)
    (parts : List TemplatePart) :
    fill? parameters (run.map .character ++ parts) = (fill? parameters parts).map (run ++ ·) := by
  induction run with
  | nil =>
      simp
  | cons character run inductionHypothesis =>
      rw [List.map_cons, List.cons_append, fill?, inductionHypothesis, Option.map_map]
      rfl

/-- Filling the parts that some pieces make gives the texts and the values of the arguments. -/
theorem fill?_pieces
    {table : Placeholder.ArgumentTable}
    {pieces : List Placeholder.Piece}
    (declared :
      ∀ index, .argument index ∈ pieces → ∃ argument ∈ table.arguments, argument.index = index)
    (distinct : (table.arguments.map (·.name)).Nodup)
    (values : Nat → ArgumentValue) :
    fill? (given table values) (pieces.flatMap (partsOf table)) =
      some (pieces.flatMap (pieceValue values)) := by
  induction pieces with
  | nil =>
      rfl
  | cons piece pieces inductionHypothesis =>
      have further := inductionHypothesis fun index isMember =>
        declared index (List.mem_cons_of_mem _ isMember)
      rw [List.flatMap_cons, List.flatMap_cons]
      cases piece with
      | text run =>
          rw [partsOf, fill?_characters, further]
          rfl
      | argument index =>
          obtain ⟨argument, isMember, atIndex, named⟩ :=
            exists_argument_of_declared (declared index List.mem_cons_self)
          have value := lookup_given distinct values isMember
          rw [atIndex, ← given] at value
          simp [partsOf, fill?, named, value, further, pieceValue]

/-! ## Values of expressions -/

theorem pieceValue_plainText
    {pieces : List Placeholder.Piece}
    (plain : pieces.any isArgument = false)
    (values : Nat → ArgumentValue) :
    (String.join (pieces.map plainText)).toList = pieces.flatMap (pieceValue values) := by
  have same : ∀ piece ∈ pieces, (plainText piece).toList = pieceValue values piece := by
    intro piece isMember
    cases piece with
    | text run =>
        rfl
    | argument index =>
        exact absurd (List.any_eq_true.mpr ⟨_, isMember, rfl⟩) (Bool.eq_false_iff.mp plain)
  rw [String.toList_join, List.flatMap_map]
  exact List.flatMap_congr same

/-- What a text says as an expression for some pieces: it stands on one line, is read as a term that
evaluates to one expression in every scope, and that expression makes the string of the pieces
whatever the arguments are. -/
structure Denotes
    (table : Placeholder.ArgumentTable)
    (pieces : List Placeholder.Piece)
    (text : String) :
    Prop where
  unbroken : IsUnbroken text.toList
  evaluates :
    ∃ term expression,
      Term.read text = some term ∧
      (∀ scope, term.run scope = .ok (.text expression)) ∧
      ∀ values : Nat → ArgumentValue,
        expression.value? (given table values) = some (pieces.flatMap (pieceValue values))

/-- The expression for some pieces denotes their string. -/
theorem denotes_stringExpression
    {table : Placeholder.ArgumentTable}
    {pieces : List Placeholder.Piece}
    (declared :
      ∀ index, .argument index ∈ pieces → ∃ argument ∈ table.arguments, argument.index = index)
    (named : ∀ argument ∈ table.arguments, isParameterName argument.name.toList)
    (distinct : (table.arguments.map (·.name)).Nodup) :
    Denotes table pieces (stringExpression table pieces) := by
  obtain ⟨term, read, run⟩ := isStringOf_textOf table pieces
  refine ⟨isUnbroken_stringExpression table pieces, term, textOf table pieces, read, run,
    fun values => ?_⟩
  unfold textOf writtenLiteral literalText
  split
  · have parameters :
        ∀ index, .argument index ∈ pieces →
          isParameterName (parameterName table index).toList := by
      intro index isMember
      obtain ⟨argument, inTable, -, same⟩ := exists_argument_of_declared (declared index isMember)
      exact same ▸ named argument inTable
    rw [TextExpression.value?, literalValue?_flatMap_escaped, Option.bind_some,
      templateParts?_pieces parameters, Option.bind_some,
      fill?_pieces declared distinct values]
  · rename_i plain
    rw [TextExpression.value?, literalValue?_flatMap_escaped,
      pieceValue_plainText (Bool.eq_false_iff.mpr plain) values]

/-- The template has three braces in a row at both ends of the first argument. -/
theorem denotes_stringExpression_between_braces :
    let table : Placeholder.ArgumentTable :=
      ⟨[some ⟨0, "user", .text, true, true⟩, some ⟨1, "n", .integer, true, false⟩]⟩
    let pieces : List Placeholder.Piece :=
      [.text "\x7b", .argument 0, .text "\x7d\"\u2028", .argument 1, .argument 0]
    Denotes table pieces (stringExpression table pieces) ∧
      stringExpression table pieces =
        "format!(\"\x7b\x7b\x7buser\x7d\x7d\x7d\\\"\\u\x7b2028\x7d\x7bn\x7d\x7buser\x7d\")" := by
  refine ⟨denotes_stringExpression ?_ (by decide) (by decide), by decide +kernel⟩
  intro index isMember
  simp only [List.mem_cons, Placeholder.Piece.argument.injEq, reduceCtorEq, List.not_mem_nil,
    false_or, or_false] at isMember
  rcases isMember with rfl | rfl | rfl <;> decide

end Phrasebook.Code
