import Mathlib
import Phrasebook.Proofs.Identifier
import Phrasebook.Proofs.Plural.Grammar
import Phrasebook.Proofs.Text.LetterCase
import Phrasebook.Proofs.Text.Lines

namespace Phrasebook.Plural

/-!
# Tokens with white space between them

A text that is cut into tokens is their words, one after another, with any white space around
them. In the other direction the words of two neighbours could merge, as two names would, or the
marks `!` and `==`. That never happens in a phrase: there a token starts an operand just if the
token before it does not end one.
-/

/-! ## Words -/

/-- The words of a lexeme. -/
inductive Lexeme.IsWrittenAs :
    Lexeme →
    List Char →
    Prop where
  | number
      {digits : List Char} :
      digits ≠ [] →
      (∀ digit ∈ digits, digit.isDigit) →
      Text.decimalValue digits ≤ largestLiteral →
      IsWrittenAs (.number (Int64.ofNat (Text.decimalValue digits))) digits
  | name
      {lead : Char}
      {further : List Char} :
      isNameLead lead →
      (∀ character ∈ further, isNamePart character) →
      IsWrittenAs (.name (String.ofList (lead :: further))) (lead :: further)
  | mark
      (symbol : Symbol) :
      IsWrittenAs (.mark symbol) symbol.spelling.toList

/-- Whether a text is white space. -/
def IsSpace
    (text : List Char) :
    Prop :=
  ∀ character ∈ text, Text.isWhitespace character

/-- Whether a text that starts at an offset consists of the words of some tokens at their offsets,
with white space around them. -/
inductive Holds :
    Nat →
    List Token →
    List Char →
    Prop where
  | space
      (offset : Nat)
      {text : List Char} :
      IsSpace text →
      Holds offset [] text
  | token
      (offset : Nat)
      {lexeme : Lexeme}
      {tokens : List Token}
      {space word text : List Char} :
      IsSpace space →
      lexeme.IsWrittenAs word →
      Holds (offset + space.length + word.length) tokens text →
      Holds offset (⟨lexeme, offset + space.length⟩ :: tokens) (space ++ word ++ text)

namespace Holds

theorem spaced
    {offset : Nat}
    {tokens : List Token}
    {space text : List Char}
    (isSpace : IsSpace space)
    (holds : Holds (offset + space.length) tokens text) :
    Holds offset tokens (space ++ text) := by
  cases holds with
  | space _ further =>
      exact .space _ (List.forall_mem_append.mpr ⟨isSpace, further⟩)
  | @token _ lexeme tokens further word text furtherSpace written rest =>
      have both : IsSpace (space ++ further) := List.forall_mem_append.mpr ⟨isSpace, furtherSpace⟩
      have place : offset + space.length + further.length = offset + (space ++ further).length := by
        rw [List.length_append, Nat.add_assoc]
      rw [place] at rest ⊢
      have joined := Holds.token offset both written rest
      simpa using joined

/-- The texts of some tokens and of the tokens after them make one text. -/
theorem append
    {offset : Nat}
    {first second : List Token}
    {firstText secondText : List Char}
    (firstHolds : Holds offset first firstText)
    (secondHolds : Holds (offset + firstText.length) second secondText) :
    Holds offset (first ++ second) (firstText ++ secondText) := by
  induction firstHolds with
  | space offset isSpace =>
      exact secondHolds.spaced isSpace
  | token offset isSpace written _ inductionHypothesis =>
      rw [List.append_assoc]
      refine .token offset isSpace written (inductionHypothesis ?_)
      simpa [Nat.add_assoc] using secondHolds

/-- A text can be cut before any of its tokens. -/
theorem split
    {offset : Nat}
    (first : List Token)
    {second : List Token}
    {text : List Char}
    (holds : Holds offset (first ++ second) text) :
    ∃ firstText secondText,
      text = firstText ++ secondText ∧
        Holds offset first firstText ∧
        Holds (offset + firstText.length) second secondText := by
  induction first generalizing offset text with
  | nil =>
      exact ⟨[], text, rfl, .space offset (by simp [IsSpace]), holds⟩
  | cons token rest inductionHypothesis =>
      cases holds with
      | @token _ lexeme _ space word text isSpace written further =>
          obtain ⟨firstText, secondText, rfl, firstHolds, secondHolds⟩ :=
            inductionHypothesis further
          refine ⟨space ++ word ++ firstText, secondText, by simp, .token offset isSpace written firstHolds, ?_⟩
          simpa [Nat.add_assoc] using secondHolds

/-- What the text of a token and of the tokens after it looks like. -/
theorem of_cons
    {offset place : Nat}
    {lexeme : Lexeme}
    {tokens : List Token}
    {text : List Char}
    (holds : Holds offset (⟨lexeme, place⟩ :: tokens) text) :
    ∃ space word rest,
      text = space ++ (word ++ rest) ∧
        place = offset + space.length ∧
        IsSpace space ∧
        lexeme.IsWrittenAs word ∧
        Holds (place + word.length) tokens rest := by
  cases holds with
  | @token _ _ _ space word rest isSpace written further =>
      exact ⟨space, word, rest, by simp, rfl, isSpace, written, further⟩

end Holds

/-! ## Cutting a text into tokens -/

theorem leadingSymbol?_eq_some
    {text : List Char}
    {symbol : Symbol}
    {further : Nat}
    (leading : leadingSymbol? text = some (symbol, further)) :
    symbol.spelling.toList.length = further + 1 ∧
      text = symbol.spelling.toList ++ text.drop (further + 1) := by
  unfold leadingSymbol? at leading
  split at leading <;> cases leading <;> exact ⟨rfl, rfl⟩

/-- A text consists of the tokens that it is cut into. -/
theorem holds_of_tokensFrom
    {offset : Nat}
    {text : List Char}
    {found : List Token}
    (lexed : tokensFrom offset text = .ok found) :
    Holds offset found text := by
  have noSpace : IsSpace [] := by simp [IsSpace]
  fun_induction tokensFrom offset text generalizing found with
  | case1 offset =>
      cases lexed
      exact .space offset noSpace
  | case2 offset character text isSpace inductionHypothesis =>
      have spaceHolds : IsSpace [character] := by simpa [IsSpace] using isSpace
      exact Holds.spaced spaceHolds (inductionHypothesis lexed)
  | case3 offset character text _ symbol further leading inductionHypothesis =>
      obtain ⟨rest, restLexed, rfl⟩ := cons_of_map_eq_ok lexed
      obtain ⟨length, shape⟩ := leadingSymbol?_eq_some leading
      have holds := inductionHypothesis restLexed
      rw [Nat.add_assoc, Nat.add_comm 1, ← length] at holds
      have joined := Holds.token offset noSpace (.mark symbol) holds
      rw [List.drop_succ_cons] at shape
      rw [shape]
      exact joined
  | case4 offset character text _ _ isDigit digits bounded =>
      rename_i inductionHypothesis
      obtain ⟨rest, restLexed, rfl⟩ := cons_of_map_eq_ok lexed
      have written : (Lexeme.number (Int64.ofNat (Text.decimalValue digits))).IsWrittenAs digits :=
        .number (List.cons_ne_nil _ _)
          (List.forall_mem_cons.mpr ⟨isDigit, List.all_eq_true.mp List.all_takeWhile⟩) bounded
      have joined := Holds.token offset noSpace written (inductionHypothesis restLexed)
      simpa [digits] using joined
  | case5 offset character text _ _ isDigit digits =>
      cases lexed
  | case6 offset character text _ _ _ isLead name =>
      rename_i inductionHypothesis
      obtain ⟨rest, restLexed, rfl⟩ := cons_of_map_eq_ok lexed
      have written : (Lexeme.name (String.ofList name)).IsWrittenAs name :=
        .name isLead (List.all_eq_true.mp List.all_takeWhile)
      have joined := Holds.token offset noSpace written (inductionHypothesis restLexed)
      simpa [name] using joined
  | case7 offset character text =>
      cases lexed

/-! ## Neighbours in a phrase -/

namespace Lexeme

/-- Whether a lexeme can start an operand. -/
def startsOperand :
    Lexeme →
    Bool
  | .number _ => true
  | .name _ => true
  | .mark .not => true
  | .mark .openParenthesis => true
  | .mark _ => false

/-- Whether a lexeme can end an operand. -/
def endsOperand :
    Lexeme →
    Bool
  | .number _ => true
  | .name _ => true
  | .mark .closeParenthesis => true
  | .mark _ => false

end Lexeme

/-- Whether two tokens may be neighbours in a phrase. -/
def Adjoins
    (first second : Token) :
    Prop :=
  second.lexeme.startsOperand = !first.lexeme.endsOperand

/-- Some tokens that start and end like an operand, with neighbours that may be. -/
structure IsRow
    (tokens : List Token) :
    Prop where
  starts : ∃ first, tokens.head? = some first ∧ first.lexeme.startsOperand
  ends : ∃ last, tokens.getLast? = some last ∧ last.lexeme.endsOperand
  adjoins : tokens.IsChain Adjoins

namespace IsRow

theorem singleton
    {token : Token}
    (starts : token.lexeme.startsOperand)
    (ends : token.lexeme.endsOperand) :
    IsRow [token] :=
  ⟨⟨token, rfl, starts⟩, ⟨token, rfl, ends⟩, .singleton token⟩

/-- A mark that starts an operand and ends none stands before a row. -/
theorem cons
    {token : Token}
    {tokens : List Token}
    (row : IsRow tokens)
    (starts : token.lexeme.startsOperand)
    (noEnd : token.lexeme.endsOperand = false) :
    IsRow (token :: tokens) := by
  obtain ⟨first, isFirst, firstStarts⟩ := row.starts
  obtain ⟨last, isLast, lastEnds⟩ := row.ends
  refine ⟨⟨token, rfl, starts⟩, ⟨last, ?_, lastEnds⟩, List.isChain_cons.mpr ⟨?_, row.adjoins⟩⟩
  · simp [List.getLast?_cons, isLast]
  · intro next isNext
    rw [isFirst] at isNext
    cases isNext
    rw [Adjoins, firstStarts, noEnd, Bool.not_false]

/-- A row goes on with a mark that starts no operand. -/
theorem append
    {token : Token}
    {first second : List Token}
    (row : IsRow first)
    (noStart : token.lexeme.startsOperand = false)
    (ends : ∃ last, (token :: second).getLast? = some last ∧ last.lexeme.endsOperand)
    (adjoins : (token :: second).IsChain Adjoins) :
    IsRow (first ++ token :: second) := by
  obtain ⟨start, isStart, starts⟩ := row.starts
  obtain ⟨last, isLast, lastEnds⟩ := row.ends
  obtain ⟨final, isFinal, finalEnds⟩ := ends
  refine ⟨⟨start, ?_, starts⟩, ⟨final, ?_, finalEnds⟩, ?_⟩
  · simp [List.head?_append, isStart]
  · rw [List.getLast?_append, isFinal, Option.some_or]
  · refine List.isChain_append.mpr ⟨row.adjoins, adjoins, ?_⟩
    simp [isLast, Adjoins, noStart, lastEnds]

/-- A mark that neither starts nor ends an operand stands between two rows. -/
theorem between
    {token : Token}
    {first second : List Token}
    (firstRow : IsRow first)
    (secondRow : IsRow second)
    (noStart : token.lexeme.startsOperand = false)
    (noEnd : token.lexeme.endsOperand = false) :
    IsRow (first ++ token :: second) := by
  obtain ⟨next, isNext, nextStarts⟩ := secondRow.starts
  obtain ⟨last, isLast, lastEnds⟩ := secondRow.ends
  refine firstRow.append noStart ⟨last, by simp [List.getLast?_cons, isLast], lastEnds⟩ ?_
  refine List.isChain_cons.mpr ⟨fun other isOther => ?_, secondRow.adjoins⟩
  rw [isNext] at isOther
  cases isOther
  rw [Adjoins, nextStarts, noEnd, Bool.not_false]

/-- A mark that ends an operand and starts none stands after a row. -/
theorem concat
    {token : Token}
    {tokens : List Token}
    (row : IsRow tokens)
    (noStart : token.lexeme.startsOperand = false)
    (ends : token.lexeme.endsOperand) :
    IsRow (tokens ++ [token]) :=
  row.append noStart ⟨token, rfl, ends⟩ (.singleton token)

end IsRow

/-- The tokens of a phrase are a row. -/
theorem Phrase.isRow
    {level : Nat}
    {tokens : List Token}
    {expression : Expression}
    (phrase : Phrase level tokens expression) :
    IsRow tokens := by
  induction phrase with
  | number offset value =>
      exact .singleton rfl rfl
  | name offset name =>
      exact .singleton rfl rfl
  | negation offset _ operandHypothesis =>
      exact operandHypothesis.cons rfl rfl
  | parenthesized opening closing _ innerHypothesis =>
      exact (innerHypothesis.cons rfl rfl).concat rfl rfl
  | tighter _ _ inductionHypothesis =>
      exact inductionHypothesis
  | binary operator offset _ _ _ leftHypothesis rightHypothesis =>
      exact leftHypothesis.between rightHypothesis rfl rfl
  | conditional question colon _ _ _ conditionHypothesis trueHypothesis falseHypothesis =>
      exact (conditionHypothesis.between trueHypothesis rfl rfl).between falseHypothesis rfl rfl

/-! ## Finding the tokens of a text -/

theorem tokensFrom_space
    {offset : Nat}
    {space : List Char}
    (isSpace : IsSpace space)
    (text : List Char) :
    tokensFrom offset (space ++ text) = tokensFrom (offset + space.length) text := by
  induction space generalizing offset with
  | nil =>
      rfl
  | cons character space inductionHypothesis =>
      rw [IsSpace, List.forall_mem_cons] at isSpace
      rw [List.cons_append, tokensFrom, if_pos isSpace.1, inductionHypothesis isSpace.2,
        List.length_cons, Nat.add_assoc, Nat.add_comm 1]

theorem ascii_of_isNamePart
    {character : Char}
    (isPart : isNamePart character) :
    character.toNat < 0x80 :=
  Identifier.ascii_of_isPart isPart

/-- A character of a word is no white space. -/
theorem isWhitespace_of_isNamePart
    {character : Char}
    (isPart : isNamePart character) :
    Text.isWhitespace character = false :=
  Identifier.isWhitespace_of_isPart isPart

/-- A character of a word leads no symbol. -/
theorem leadingSymbol?_of_isNamePart
    {character : Char}
    (isPart : isNamePart character)
    (text : List Char) :
    leadingSymbol? (character :: text) = none := by
  unfold leadingSymbol?
  split
  all_goals first | rfl | (rename_i same; cases same; revert isPart; decide)

theorem isNamePart_of_isDigit
    {character : Char}
    (isDigit : character.isDigit) :
    isNamePart character := by
  simp [isNamePart, Char.isAlphanum, isDigit]

theorem isNamePart_of_isNameLead
    {character : Char}
    (isLead : isNameLead character) :
    isNamePart character := by
  rw [isNameLead, Bool.or_eq_true] at isLead
  rcases isLead with isAlpha | isLow
  · simp [isNamePart, Char.isAlphanum, isAlpha]
  · simp [isNamePart, isLow]

/-- A character that leads a name is no digit. -/
theorem isDigit_of_isNameLead
    {character : Char}
    (isLead : isNameLead character) :
    character.isDigit = false := by
  have known :=
    Text.of_ascii (fun character => !isNameLead character || !character.isDigit)
      (by decide +kernel) (ascii_of_isNamePart (isNamePart_of_isNameLead isLead))
  simpa [isLead] using known

/-- A number is a token of its own where no digit follows. -/
theorem tokensFrom_number
    {offset : Nat}
    {digits text : List Char}
    (notEmpty : digits ≠ [])
    (isNumber : ∀ digit ∈ digits, digit.isDigit)
    (bounded : Text.decimalValue digits ≤ largestLiteral)
    (lacks : Text.LacksLead Char.isDigit text) :
    tokensFrom offset (digits ++ text) =
      (tokensFrom (offset + digits.length) text).map
        (⟨.number (Int64.ofNat (Text.decimalValue digits)), offset⟩ :: ·) := by
  cases digits with
  | nil =>
      exact absurd rfl notEmpty
  | cons digit digits =>
      rw [List.forall_mem_cons] at isNumber
      have isPart := isNamePart_of_isDigit isNumber.1
      obtain ⟨taken, left⟩ := Text.takeWhile_of_lacksLead isNumber.2 lacks
      rw [List.cons_append, tokensFrom, isWhitespace_of_isNamePart isPart,
        leadingSymbol?_of_isNamePart isPart]
      simp [isNumber.1, taken, left, bounded]

/-- A name is a token of its own where no further character of a name follows. -/
theorem tokensFrom_name
    {offset : Nat}
    {lead : Char}
    {further text : List Char}
    (isLead : isNameLead lead)
    (areParts : ∀ character ∈ further, isNamePart character)
    (lacks : Text.LacksLead isNamePart text) :
    tokensFrom offset (lead :: further ++ text) =
      (tokensFrom (offset + (lead :: further).length) text).map
        (⟨.name (String.ofList (lead :: further)), offset⟩ :: ·) := by
  have isPart := isNamePart_of_isNameLead isLead
  obtain ⟨taken, left⟩ := Text.takeWhile_of_lacksLead areParts lacks
  have noDigit := isDigit_of_isNameLead isLead
  rw [List.cons_append, tokensFrom, isWhitespace_of_isNamePart isPart,
    leadingSymbol?_of_isNamePart isPart]
  simp [isLead, noDigit, taken, left]

theorem isWhitespace_spelling
    (symbol : Symbol) :
    ∀ lead further, symbol.spelling.toList = lead :: further →
      Text.isWhitespace lead = false := by
  cases symbol with
  | binary operator =>
      cases operator <;> rintro _ _ ⟨⟩ <;> rfl
  | _ =>
      rintro _ _ ⟨⟩
      rfl

/-- A mark that an equals sign could be merged with leads its own symbol where none follows. -/
theorem leadingSymbol?_mergeable
    {mark : Char}
    {symbol : Symbol}
    {text : List Char}
    (mergeable : (mark, symbol) ∈
      [('!', Symbol.not), ('<', .binary .less), ('>', .binary .greater)])
    (apart : Text.LacksLead (· == '=') text) :
    leadingSymbol? (mark :: text) = some (symbol, 0) := by
  have differs : ∀ rest, text ≠ '=' :: rest := by
    rintro rest rfl
    cases apart _ rest rfl
  simp only [List.mem_cons, Prod.mk.injEq, List.not_mem_nil, or_false] at mergeable
  rcases mergeable with ⟨rfl, rfl⟩ | ⟨rfl, rfl⟩ | ⟨rfl, rfl⟩
  all_goals
    unfold leadingSymbol?
    split <;> simp_all

/-- A symbol is found at the start of a text, if no equals sign follows where an operand is to
start. -/
theorem leadingSymbol?_spelling
    {symbol : Symbol}
    {text : List Char}
    (apart : (Lexeme.mark symbol).endsOperand = false → Text.LacksLead (· == '=') text) :
    leadingSymbol? (symbol.spelling.toList ++ text) =
      some (symbol, symbol.spelling.toList.length - 1) := by
  cases symbol with
  | not =>
      change leadingSymbol? ('!' :: text) = some (.not, 0)
      exact leadingSymbol?_mergeable (by simp) (apart rfl)
  | binary operator =>
      cases operator with
      | less =>
          change leadingSymbol? ('<' :: text) = some (.binary .less, 0)
          exact leadingSymbol?_mergeable (by simp) (apart rfl)
      | greater =>
          change leadingSymbol? ('>' :: text) = some (.binary .greater, 0)
          exact leadingSymbol?_mergeable (by simp) (apart rfl)
      | _ =>
          rfl
  | _ =>
      rfl

/-- A symbol that is found at the start of a text is a token of its own. -/
theorem tokensFrom_of_leadingSymbol?
    {offset : Nat}
    {symbol : Symbol}
    {text : List Char}
    (leading :
      leadingSymbol? (symbol.spelling.toList ++ text) =
        some (symbol, symbol.spelling.toList.length - 1)) :
    tokensFrom offset (symbol.spelling.toList ++ text) =
      (tokensFrom (offset + symbol.spelling.toList.length) text).map
        (⟨.mark symbol, offset⟩ :: ·) := by
  have noSpace := isWhitespace_spelling symbol
  cases spelled : symbol.spelling.toList with
  | nil =>
      cases symbol with
      | binary operator =>
          cases operator <;> cases spelled
      | _ =>
          cases spelled
  | cons lead further =>
      rw [spelled] at leading
      rw [List.cons_append] at leading ⊢
      rw [tokensFrom, noSpace lead further spelled, leading]
      simp [Nat.add_assoc, Nat.add_comm 1]

/-- A symbol is a token of its own if no equals sign follows where an operand is to start. -/
theorem tokensFrom_symbol
    {offset : Nat}
    {symbol : Symbol}
    {text : List Char}
    (apart : (Lexeme.mark symbol).endsOperand = false → Text.LacksLead (· == '=') text) :
    tokensFrom offset (symbol.spelling.toList ++ text) =
      (tokensFrom (offset + symbol.spelling.toList.length) text).map
        (⟨.mark symbol, offset⟩ :: ·) :=
  tokensFrom_of_leadingSymbol? (leadingSymbol?_spelling apart)

/-! ## Rows are found -/

/-- A word that starts no operand starts like no name and no number. -/
theorem isNamePart_of_isWrittenAs
    {lexeme : Lexeme}
    {lead : Char}
    {further : List Char}
    (written : lexeme.IsWrittenAs (lead :: further))
    (noStart : lexeme.startsOperand = false) :
    isNamePart lead = false := by
  generalize same : lead :: further = word at written
  cases written with
  | number _ _ _ =>
      cases noStart
  | name _ _ =>
      cases noStart
  | mark symbol =>
      cases symbol with
      | binary operator =>
          cases operator <;> cases same <;> rfl
      | _ =>
          cases same
          rfl

/-- A word that starts an operand does not start with an equals sign. -/
theorem beq_equals_of_isWrittenAs
    {lexeme : Lexeme}
    {lead : Char}
    {further : List Char}
    (written : lexeme.IsWrittenAs (lead :: further))
    (starts : lexeme.startsOperand) :
    (lead == '=') = false := by
  have ofPart : isNamePart lead → (lead == '=') = false := by
    rw [beq_eq_false_iff_ne]
    rintro isPart rfl
    revert isPart
    decide
  generalize same : lead :: further = word at written
  cases written with
  | number _ areDigits _ =>
      subst same
      exact ofPart (isNamePart_of_isDigit (areDigits lead List.mem_cons_self))
  | name isLead _ =>
      cases same
      exact ofPart (isNamePart_of_isNameLead isLead)
  | mark symbol =>
      cases symbol with
      | binary operator =>
          cases starts
      | _ =>
          cases same
          rfl

/-- A word has a first character. -/
theorem ne_nil_of_isWrittenAs
    {lexeme : Lexeme}
    {word : List Char}
    (written : lexeme.IsWrittenAs word) :
    word ≠ [] := by
  cases written with
  | number notEmpty _ _ =>
      exact notEmpty
  | name _ _ =>
      exact List.cons_ne_nil _ _
  | mark symbol =>
      cases symbol with
      | binary operator =>
          cases operator <;> exact List.cons_ne_nil _ _
      | _ =>
          exact List.cons_ne_nil _ _

/-- What a text starts with is told by its first token. -/
theorem lacksLead_of_holds
    {condition : Char → Bool}
    {offset : Nat}
    {tokens : List Token}
    {text : List Char}
    (holds : Holds offset tokens text)
    (noSpace : ∀ character, Text.isWhitespace character → condition character = false)
    (noWord :
      ∀ token ∈ tokens.head?, ∀ lead further,
        token.lexeme.IsWrittenAs (lead :: further) → condition lead = false) :
    Text.LacksLead condition text := by
  rintro character rest rfl
  generalize same : character :: rest = text at holds
  cases holds with
  | space _ isSpace =>
      subst same
      exact noSpace character (isSpace character List.mem_cons_self)
  | @token _ lexeme _ space word _ isSpace written _ =>
      cases space with
      | cons blank space =>
          cases same
          exact noSpace character (isSpace character List.mem_cons_self)
      | nil =>
          cases word with
          | nil =>
              exact absurd rfl (ne_nil_of_isWrittenAs written)
          | cons lead further =>
              cases same
              exact noWord _ rfl _ _ written

/-- The tokens of a row are found in any text that consists of them. -/
theorem tokensFrom_of_holds
    {offset : Nat}
    {tokens : List Token}
    {text : List Char}
    (holds : Holds offset tokens text)
    (adjoins : tokens.IsChain Adjoins) :
    tokensFrom offset text = .ok tokens := by
  induction holds with
  | space offset isSpace =>
      have found : tokensFrom offset (_ ++ []) = _ := tokensFrom_space isSpace []
      rw [List.append_nil, tokensFrom] at found
      exact found
  | @token offset lexeme tokens space word text isSpace written further inductionHypothesis =>
      rw [List.isChain_cons] at adjoins
      obtain ⟨adjoin, adjoins⟩ := adjoins
      have found := inductionHypothesis adjoins
      have isPart_lacks : lexeme.endsOperand → Text.LacksLead isNamePart text := by
        intro ends
        refine lacksLead_of_holds further (fun character isSpace => ?_) ?_
        · by_contra isPart
          rw [Bool.not_eq_false] at isPart
          rw [isWhitespace_of_isNamePart isPart] at isSpace
          cases isSpace
        · intro next isNext lead further written
          have noStart := adjoin next isNext
          rw [Adjoins, ends] at noStart
          exact isNamePart_of_isWrittenAs written noStart
      rw [List.append_assoc, tokensFrom_space isSpace]
      cases written with
      | number notEmpty areDigits bounded =>
          have lacks : Text.LacksLead Char.isDigit text := by
            intro character rest same
            by_contra isDigit
            rw [Bool.not_eq_false] at isDigit
            have isPart := isPart_lacks rfl character rest same
            rw [isNamePart_of_isDigit isDigit] at isPart
            cases isPart
          rw [tokensFrom_number notEmpty areDigits bounded lacks, found]
          rfl
      | name isLead areParts =>
          rw [tokensFrom_name isLead areParts (isPart_lacks rfl), found]
          rfl
      | mark symbol =>
          have apart :
              (Lexeme.mark symbol).endsOperand = false → Text.LacksLead (· == '=') text := by
            intro noEnd
            refine lacksLead_of_holds further (fun character isSpace => ?_) ?_
            · by_contra isEquals
              rw [Bool.not_eq_false, beq_iff_eq] at isEquals
              subst isEquals
              cases isSpace
            · intro next isNext lead further written
              have starts := adjoin next isNext
              rw [Adjoins, noEnd] at starts
              exact beq_equals_of_isWrittenAs written starts
          rw [tokensFrom_symbol apart, found]
          rfl

end Phrasebook.Plural
