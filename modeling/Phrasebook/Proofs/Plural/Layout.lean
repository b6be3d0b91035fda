import Mathlib
import Phrasebook.Proofs.Plural.GrammarCompleteness
import Phrasebook.Proofs.Plural.Spacing

namespace Phrasebook.Plural

/-!
# Layouts of plural expressions

The texts that write an expression, level by level and character by character: with white space
around every word, and with any parentheses beyond those that the levels ask for. A text is read
as an expression just if it is a layout of it, so no text has two readings.
-/

/-- Whether a character may stand before the first word of an expression. -/
def isPadding
    (character : Char) :
    Bool :=
  Text.isWhitespace character || character == '('

/-- Where the first word of an expression stands, for its text and the offset of that. -/
def leadingOffset
    (start : Nat)
    (text : List Char) :
    Nat :=
  start + (text.takeWhile isPadding).length

/-- The layouts of a level: an offset, a text that starts there and the expression it writes. -/
inductive IsLayout :
    Nat →
    Nat →
    List Char →
    Expression →
    Prop where
  | literal
      (start : Nat)
      {digits : List Char} :
      digits ≠ [] →
      (∀ digit ∈ digits, digit.isDigit) →
      Text.decimalValue digits ≤ largestLiteral →
      IsLayout 0 start digits (.literal start (Int64.ofNat (Text.decimalValue digits)))
  | variable
      (start : Nat)
      {lead : Char}
      {further : List Char} :
      isNameLead lead →
      (∀ character ∈ further, isNamePart character) →
      IsLayout 0 start (lead :: further) (.variable start (String.ofList (lead :: further)))
  | negation
      (start : Nat)
      {text : List Char}
      {operand : Expression} :
      IsLayout 0 (start + 1) text operand →
      IsLayout 0 start ('!' :: text) (.negation start operand)
  | parenthesized
      (start : Nat)
      {text : List Char}
      {inner : Expression} :
      IsLayout conditionalLevel (start + 1) text inner →
      IsLayout 0 start ('(' :: text ++ [')']) inner
  | spaced
      (start : Nat)
      {level : Nat}
      {before text after : List Char}
      {expression : Expression} :
      IsSpace before →
      IsLayout level (start + before.length) text expression →
      IsSpace after →
      IsLayout level start (before ++ text ++ after) expression
  | tighter
      {level start : Nat}
      {text : List Char}
      {expression : Expression} :
      level < conditionalLevel →
      IsLayout level start text expression →
      IsLayout (level + 1) start text expression
  | binary
      (operator : BinaryOperator)
      (start : Nat)
      {level : Nat}
      {leftText rightText : List Char}
      {left right : Expression} :
      operator.level = level + 1 →
      IsLayout (level + 1) start leftText left →
      IsLayout level (start + leftText.length + operator.spelling.toList.length) rightText right →
      IsLayout (level + 1) start
        (leftText ++ operator.spelling.toList ++ rightText)
        (.binary (leadingOffset start (leftText ++ operator.spelling.toList ++ rightText))
          operator left right)
  | conditional
      (start : Nat)
      {conditionText trueText falseText : List Char}
      {condition whenTrue whenFalse : Expression} :
      IsLayout loosestLevel start conditionText condition →
      IsLayout conditionalLevel (start + conditionText.length + 1) trueText whenTrue →
      IsLayout conditionalLevel
        (start + conditionText.length + 1 + trueText.length + 1) falseText whenFalse →
      IsLayout conditionalLevel start
        (conditionText ++ '?' :: trueText ++ ':' :: falseText)
        (.conditional
          (leadingOffset start (conditionText ++ '?' :: trueText ++ ':' :: falseText))
          condition whenTrue whenFalse)

/-! ## Where an expression starts -/

theorem isPadding_of_isWhitespace
    {character : Char}
    (isSpace : Text.isWhitespace character) :
    isPadding character := by
  rw [isPadding, isSpace, Bool.true_or]

theorem isPadding_of_isNamePart
    {character : Char}
    (isPart : isNamePart character) :
    isPadding character = false := by
  rw [isPadding, isWhitespace_of_isNamePart isPart, Bool.false_or, beq_eq_false_iff_ne]
  rintro rfl
  cases isPart

theorem leadingOffset_of_lead
    (start : Nat)
    {lead : Char}
    (noPadding : isPadding lead = false)
    (text : List Char) :
    leadingOffset start (lead :: text) = start := by
  simp [leadingOffset, noPadding]

theorem leadingOffset_padding
    (start : Nat)
    {before : List Char}
    (padding : ∀ character ∈ before, isPadding character)
    (text : List Char) :
    leadingOffset start (before ++ text) = leadingOffset (start + before.length) text := by
  rw [leadingOffset, leadingOffset, List.takeWhile_append_of_pos padding, List.length_append,
    Nat.add_assoc]

/-- Whether a text holds more than padding. -/
def HoldsWord
    (text : List Char) :
    Prop :=
  ∃ character ∈ text, isPadding character = false

theorem HoldsWord.append_left
    {text : List Char}
    (holdsWord : HoldsWord text)
    (before : List Char) :
    HoldsWord (before ++ text) := by
  obtain ⟨character, isMember, noPadding⟩ := holdsWord
  exact ⟨character, List.mem_append_right before isMember, noPadding⟩

theorem HoldsWord.append_right
    {text : List Char}
    (holdsWord : HoldsWord text)
    (after : List Char) :
    HoldsWord (text ++ after) := by
  obtain ⟨character, isMember, noPadding⟩ := holdsWord
  exact ⟨character, List.mem_append_left after isMember, noPadding⟩

/-- What follows a word does not matter to where the first word stands. -/
theorem leadingOffset_append
    (start : Nat)
    {text : List Char}
    (holdsWord : HoldsWord text)
    (after : List Char) :
    leadingOffset start (text ++ after) = leadingOffset start text := by
  have stops : (text.takeWhile isPadding).length ≠ text.length := by
    intro same
    obtain ⟨character, isMember, noPadding⟩ := holdsWord
    have whole := List.takeWhile_prefix isPadding |>.eq_of_length same
    rw [List.takeWhile_eq_self_iff.mp whole character isMember] at noPadding
    cases noPadding
  rw [leadingOffset, leadingOffset, List.takeWhile_append, if_neg stops]

namespace IsLayout

/-- A layout is not all white space and parentheses. -/
theorem holdsWord
    {level start : Nat}
    {text : List Char}
    {expression : Expression}
    (isLayout : IsLayout level start text expression) :
    HoldsWord text := by
  induction isLayout with
  | @literal _ digits notEmpty areDigits _ =>
      obtain ⟨digit, isMember⟩ := List.exists_mem_of_ne_nil digits notEmpty
      exact ⟨digit, isMember,
        isPadding_of_isNamePart (isNamePart_of_isDigit (areDigits digit isMember))⟩
  | «variable» _ isLead _ =>
      exact ⟨_, List.mem_cons_self, isPadding_of_isNamePart (isNamePart_of_isNameLead isLead)⟩
  | negation _ _ _ =>
      exact ⟨'!', List.mem_cons_self, rfl⟩
  | parenthesized _ _ inductionHypothesis =>
      exact (inductionHypothesis.append_left ['(']).append_right [')']
  | spaced _ _ _ _ inductionHypothesis =>
      exact (inductionHypothesis.append_left _).append_right _
  | tighter _ _ inductionHypothesis =>
      exact inductionHypothesis
  | binary _ _ _ _ _ leftHypothesis _ =>
      exact (leftHypothesis.append_right _).append_right _
  | conditional _ _ _ _ conditionHypothesis _ _ =>
      exact (conditionHypothesis.append_right _).append_right _

/-- An expression keeps the offset of its first word. -/
theorem offset_eq
    {level start : Nat}
    {text : List Char}
    {expression : Expression}
    (isLayout : IsLayout level start text expression) :
    expression.offset = leadingOffset start text := by
  induction isLayout with
  | @literal start digits notEmpty areDigits _ =>
      cases digits with
      | nil =>
          exact absurd rfl notEmpty
      | cons digit digits =>
          have isPart := isNamePart_of_isDigit (areDigits digit List.mem_cons_self)
          exact (leadingOffset_of_lead start (isPadding_of_isNamePart isPart) digits).symm
  | «variable» start isLead _ =>
      have isPart := isNamePart_of_isNameLead isLead
      exact (leadingOffset_of_lead start (isPadding_of_isNamePart isPart) _).symm
  | negation start _ _ =>
      exact (leadingOffset_of_lead start rfl _).symm
  | @parenthesized start text inner isInner inductionHypothesis =>
      have padding : ∀ character ∈ ['('], isPadding character := by simp [isPadding]
      rw [inductionHypothesis, List.cons_append, ← List.singleton_append,
        leadingOffset_padding start padding, leadingOffset_append _ isInner.holdsWord]
      rfl
  | @spaced start _ before text after _ isSpace isInner _ inductionHypothesis =>
      have padding : ∀ character ∈ before, isPadding character :=
        fun character isMember => isPadding_of_isWhitespace (isSpace character isMember)
      rw [inductionHypothesis, List.append_assoc, leadingOffset_padding start padding,
        leadingOffset_append _ isInner.holdsWord]
  | tighter _ _ inductionHypothesis =>
      exact inductionHypothesis
  | binary _ _ _ _ _ _ _ =>
      rfl
  | conditional _ _ _ _ _ _ _ =>
      rfl

/-- Whatever follows a layout, the first word is that of its expression. -/
theorem leadingOffset_eq
    {level start : Nat}
    {text : List Char}
    {expression : Expression}
    (isLayout : IsLayout level start text expression)
    (after : List Char) :
    leadingOffset start (text ++ after) = expression.offset := by
  rw [leadingOffset_append start isLayout.holdsWord, isLayout.offset_eq]

/-- A binary operation has the offset of its left operand. -/
theorem binaryOf
    (operator : BinaryOperator)
    {level start : Nat}
    {leftText rightText : List Char}
    {left right : Expression}
    (atLevel : operator.level = level + 1)
    (isLeft : IsLayout (level + 1) start leftText left)
    (isRight : IsLayout level (start + leftText.length + operator.spelling.toList.length)
      rightText right) :
    IsLayout (level + 1) start
      (leftText ++ (operator.spelling.toList ++ rightText))
      (.binary left.offset operator left right) := by
  have whole := IsLayout.binary operator start atLevel isLeft isRight
  rw [List.append_assoc, isLeft.leadingOffset_eq] at whole
  exact whole

/-- A conditional has the offset of its condition. -/
theorem conditionalOf
    {start : Nat}
    {conditionText trueText falseText : List Char}
    {condition whenTrue whenFalse : Expression}
    (isCondition : IsLayout loosestLevel start conditionText condition)
    (isTrue : IsLayout conditionalLevel (start + conditionText.length + 1) trueText whenTrue)
    (isFalse : IsLayout conditionalLevel
      (start + conditionText.length + 1 + trueText.length + 1) falseText whenFalse) :
    IsLayout conditionalLevel start
      (conditionText ++ '?' :: (trueText ++ ':' :: falseText))
      (.conditional condition.offset condition whenTrue whenFalse) := by
  have whole := IsLayout.conditional start isCondition isTrue isFalse
  rw [List.append_assoc, isCondition.leadingOffset_eq] at whole
  exact whole

/-! ## From layouts to phrases -/

/-- The tokens of a layout are a phrase. -/
theorem phrase
    {level start : Nat}
    {text : List Char}
    {expression : Expression}
    (isLayout : IsLayout level start text expression) :
    ∃ tokens, Holds start tokens text ∧ Phrase level tokens expression := by
  have noSpace : IsSpace [] := by simp [IsSpace]
  induction isLayout with
  | literal start notEmpty areDigits bounded =>
      have holds := Holds.token start noSpace (.number notEmpty areDigits bounded)
        (.space _ noSpace)
      rw [List.append_nil, List.nil_append] at holds
      exact ⟨_, holds, .number start _⟩
  | «variable» start isLead areParts =>
      have holds := Holds.token start noSpace (.name isLead areParts) (.space _ noSpace)
      rw [List.append_nil, List.nil_append] at holds
      exact ⟨_, holds, .name start _⟩
  | negation start _ inductionHypothesis =>
      obtain ⟨tokens, holds, operand⟩ := inductionHypothesis
      exact ⟨_, .token start noSpace (.mark .not) holds, .negation start operand⟩
  | @parenthesized start text _ _ inductionHypothesis =>
      obtain ⟨tokens, holds, inner⟩ := inductionHypothesis
      have closing := Holds.token (start + 1 + text.length) noSpace
        (.mark .closeParenthesis) (.space _ noSpace)
      have joined := Holds.token start noSpace (.mark .openParenthesis) (holds.append closing)
      exact ⟨_, joined, .parenthesized start _ inner⟩
  | spaced start isSpace _ isSpaceAfter inductionHypothesis =>
      obtain ⟨tokens, holds, inner⟩ := inductionHypothesis
      have joined := (holds.append (.space _ isSpaceAfter)).spaced isSpace
      rw [List.append_nil, ← List.append_assoc] at joined
      exact ⟨tokens, joined, inner⟩
  | tighter below _ inductionHypothesis =>
      obtain ⟨tokens, holds, inner⟩ := inductionHypothesis
      exact ⟨tokens, holds, .tighter below inner⟩
  | @binary operator start _ leftText rightText _ _ atLevel isLeft _ leftHypothesis
      rightHypothesis =>
      obtain ⟨leftTokens, leftHolds, left⟩ := leftHypothesis
      obtain ⟨rightTokens, rightHolds, right⟩ := rightHypothesis
      have joined := leftHolds.append
        (.token (start + leftText.length) noSpace (.mark (.binary operator)) rightHolds)
      rw [List.append_assoc, isLeft.leadingOffset_eq]
      exact ⟨_, joined, .binary operator _ atLevel left right⟩
  | @conditional start conditionText trueText _ _ _ _ isCondition _ _ conditionHypothesis
      trueHypothesis falseHypothesis =>
      obtain ⟨conditionTokens, conditionHolds, condition⟩ := conditionHypothesis
      obtain ⟨trueTokens, trueHolds, whenTrue⟩ := trueHypothesis
      obtain ⟨falseTokens, falseHolds, whenFalse⟩ := falseHypothesis
      have branches := trueHolds.append
        (.token (start + conditionText.length + 1 + trueText.length) noSpace (.mark .colon)
          falseHolds)
      have joined := conditionHolds.append
        (.token (start + conditionText.length) noSpace (.mark .question) branches)
      rw [List.append_assoc, isCondition.leadingOffset_eq]
      refine ⟨_, joined, ?_⟩
      have made := Phrase.conditional (start + conditionText.length)
        (start + conditionText.length + 1 + trueText.length) condition whenTrue whenFalse
      rw [List.append_assoc] at made
      exact made

/-! ## From phrases to layouts -/

theorem spacedBefore
    {level start : Nat}
    {before text : List Char}
    {expression : Expression}
    (isSpace : IsSpace before)
    (isLayout : IsLayout level (start + before.length) text expression) :
    IsLayout level start (before ++ text) expression := by
  have noSpace : IsSpace [] := by simp [IsSpace]
  have spaced := IsLayout.spaced start isSpace isLayout noSpace
  rw [List.append_nil] at spaced
  exact spaced

theorem spacedAfter
    {level start : Nat}
    {text after : List Char}
    {expression : Expression}
    (isLayout : IsLayout level start text expression)
    (isSpace : IsSpace after) :
    IsLayout level start (text ++ after) expression := by
  have noSpace : IsSpace [] := by simp [IsSpace]
  exact .spaced start noSpace isLayout isSpace

end IsLayout

/-- The text of a symbol and of the tokens after it. -/
theorem Holds.of_symbol
    {offset place : Nat}
    {symbol : Symbol}
    {tokens : List Token}
    {text : List Char}
    (holds : Holds offset (⟨.mark symbol, place⟩ :: tokens) text) :
    ∃ space rest,
      text = space ++ (symbol.spelling.toList ++ rest) ∧
        place = offset + space.length ∧
        IsSpace space ∧
        Holds (place + symbol.spelling.toList.length) tokens rest := by
  obtain ⟨space, word, rest, shape, same, isSpace, written, after⟩ := holds.of_cons
  cases written
  exact ⟨space, rest, shape, same, isSpace, after⟩

/-- A text that consists of the tokens of a phrase is a layout. -/
theorem Phrase.isLayout
    {level start : Nat}
    {tokens : List Token}
    {text : List Char}
    {expression : Expression}
    (phrase : Phrase level tokens expression)
    (holds : Holds start tokens text) :
    IsLayout level start text expression := by
  induction phrase generalizing start text with
  | number offset value =>
      obtain ⟨space, word, rest, rfl, rfl, isSpace, written, after⟩ := holds.of_cons
      cases written with
      | number notEmpty areDigits bounded =>
          cases after with
          | space _ isSpaceAfter =>
              rw [← List.append_assoc]
              exact .spaced start isSpace (.literal _ notEmpty areDigits bounded) isSpaceAfter
  | name offset name =>
      obtain ⟨space, word, rest, rfl, rfl, isSpace, written, after⟩ := holds.of_cons
      cases written with
      | name isLead areParts =>
          cases after with
          | space _ isSpaceAfter =>
              rw [← List.append_assoc]
              exact .spaced start isSpace (.variable _ isLead areParts) isSpaceAfter
  | negation offset _ operandHypothesis =>
      obtain ⟨space, rest, rfl, rfl, isSpace, after⟩ := holds.of_symbol
      exact .spacedBefore isSpace (.negation _ (operandHypothesis after))
  | parenthesized opening closing _ innerHypothesis =>
      obtain ⟨space, rest, rfl, rfl, isSpace, after⟩ := holds.of_symbol
      obtain ⟨innerText, closingText, rfl, innerHolds, closingHolds⟩ := after.split _
      obtain ⟨spaceClosing, final, rfl, rfl, isSpaceClosing, atEnd⟩ := closingHolds.of_symbol
      cases atEnd with
      | space _ isSpaceAfter =>
          have inner := (innerHypothesis innerHolds).spacedAfter isSpaceClosing
          have whole := (IsLayout.parenthesized _ inner).spacedAfter isSpaceAfter
          have spaced := IsLayout.spacedBefore isSpace whole
          change IsLayout 0 start
            (space ++ '(' :: (innerText ++ (spaceClosing ++ ')' :: final))) _
          simpa using spaced
  | tighter below _ inductionHypothesis =>
      exact .tighter below (inductionHypothesis holds)
  | binary operator offset atLevel _ _ leftHypothesis rightHypothesis =>
      obtain ⟨leftText, operatorText, rfl, leftHolds, operatorHolds⟩ := holds.split _
      obtain ⟨space, rightText, rfl, rfl, isSpace, rightHolds⟩ := operatorHolds.of_symbol
      have isLeft := (leftHypothesis leftHolds).spacedAfter isSpace
      have place :
          start + leftText.length + space.length = start + (leftText ++ space).length := by
        rw [List.length_append, Nat.add_assoc]
      rw [place] at rightHolds
      have whole := IsLayout.binaryOf operator atLevel isLeft (rightHypothesis rightHolds)
      rw [List.append_assoc] at whole
      exact whole
  | @conditional _ _ _ _ _ _ whenTrue whenFalse _ _ _ conditionHypothesis
      trueHypothesis falseHypothesis =>
      rw [List.append_assoc] at holds
      obtain ⟨conditionText, afterCondition, rfl, conditionHolds, questionHolds⟩ := holds.split _
      obtain ⟨space, branches, rfl, rfl, isSpace, branchesHold⟩ := questionHolds.of_symbol
      obtain ⟨trueText, colonText, rfl, trueHolds, colonHolds⟩ := branchesHold.split _
      obtain ⟨spaceColon, falseText, rfl, rfl, isSpaceColon, falseHolds⟩ := colonHolds.of_symbol
      have isCondition := (conditionHypothesis conditionHolds).spacedAfter isSpace
      have isTrue : IsLayout conditionalLevel
          (start + (conditionText ++ space).length + 1) (trueText ++ spaceColon) whenTrue := by
        rw [List.length_append, ← Nat.add_assoc]
        exact (trueHypothesis trueHolds).spacedAfter isSpaceColon
      have isFalse : IsLayout conditionalLevel
          (start + (conditionText ++ space).length + 1 + (trueText ++ spaceColon).length + 1)
          falseText whenFalse := by
        rw [List.length_append, List.length_append, ← Nat.add_assoc, ← Nat.add_assoc]
        exact falseHypothesis falseHolds
      have whole := IsLayout.conditionalOf isCondition isTrue isFalse
      rw [List.append_assoc, List.append_assoc] at whole
      exact whole

/-! ## Reading texts -/

theorem read_eq_ok
    {source : String}
    {expression : Expression} :
    Expression.read source = .ok expression ↔
      ∃ found, tokens source.toList = .ok found ∧ readWhole found = .ok expression := by
  unfold Expression.read
  cases tokens source.toList with
  | error error =>
      simp
  | ok found =>
      cases read : readWhole found with
      | error mismatch =>
          simp [read]
      | ok whole =>
          simp [read]

/-- A source text is read as an expression just if it is a layout of the expression, and it is a
layout of one expression at most. -/
theorem read_eq_ok_iff_isLayout
    (source : String) :
    (∀ expression,
      Expression.read source = .ok expression ↔
        IsLayout conditionalLevel 0 source.toList expression) ∧
      ∀ first second,
        IsLayout conditionalLevel 0 source.toList first →
        IsLayout conditionalLevel 0 source.toList second →
        first = second := by
  have reads : ∀ expression,
      Expression.read source = .ok expression ↔
        IsLayout conditionalLevel 0 source.toList expression := by
    intro expression
    rw [read_eq_ok]
    constructor
    · rintro ⟨found, lexed, read⟩
      exact (readWhole_eq_ok_iff.mp read).isLayout (holds_of_tokensFrom lexed)
    · intro isLayout
      obtain ⟨found, holds, phrase⟩ := isLayout.phrase
      exact ⟨found, tokensFrom_of_holds holds phrase.isRow.adjoins, readWhole_eq_ok_iff.mpr phrase⟩
  refine ⟨reads, fun first second isFirst isSecond => ?_⟩
  have same := ((reads first).mpr isFirst).symm.trans ((reads second).mpr isSecond)
  exact Except.ok.inj same

/-- Redundant parentheses and a leading zero leave the tree of `n % 10 == 1` alone, and the offset
of the whole is that of its first name. -/
theorem isLayout_redundant :
    IsLayout conditionalLevel 0 "( (n)%010 )==1".toList
        (.binary 3 .equal
          (.binary 3 .remainder (.variable 3 "n") (.literal 6 10)) (.literal 13 1)) ∧
      ∀ other,
        IsLayout conditionalLevel 0 "( (n)%010 )==1".toList other →
        other = .binary 3 .equal
          (.binary 3 .remainder (.variable 3 "n") (.literal 6 10)) (.literal 13 1) := by
  have reads := read_eq_ok_iff_isLayout "( (n)%010 )==1"
  have isLayout := (reads.1
    (.binary 3 .equal
      (.binary 3 .remainder (.variable 3 "n") (.literal 6 10)) (.literal 13 1))).mp
    (by cbv)
  exact ⟨isLayout, fun other isOther => reads.2 _ _ isOther isLayout⟩

end Phrasebook.Plural
