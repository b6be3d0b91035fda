import Mathlib
import Phrasebook.Identifier
import Phrasebook.Text.Decimal

namespace Phrasebook.Generated

/-!
# Lexemes of generated code

Generated code is read back from its text alone. A scan goes through the text once and keeps what
it has read of a lexeme that may still go on, so the scan of a text that is put together from
pieces follows from the scans of the pieces. Of two lexemes that start alike the longer one is
taken. Whatever the generated code has no use for is refused.
-/

/-- The words that are no names. -/
inductive Keyword where
  | conditional
  | alternative
  | selection
  | function
  | exported
  | constant
  | enumeration
  | record
  | implementation
  | receiver
  | wildcard
  deriving Repr, DecidableEq

/-- The marks that stand between words. -/
inductive Mark where
  | openParenthesis
  | closeParenthesis
  | openBrace
  | closeBrace
  | openBracket
  | closeBracket
  | comma
  | dot
  | semicolon
  | colon
  | pathSeparator
  | hash
  | ampersand
  | assign
  | thinArrow
  | thickArrow
  | bang
  | percent
  | both
  | either
  | equal
  | notEqual
  | less
  | lessEqual
  | greater
  | greaterEqual
  deriving Repr, DecidableEq

/-- The lexemes of generated code. A string literal keeps its characters as they are written. -/
inductive Lexeme where
  | keyword (keyword : Keyword)
  | name (text : String)
  | reserved (text : String)
  | number (value : Nat)
  | literal (written : List Char)
  | lifetime (name : String)
  | mark (mark : Mark)
  deriving Repr, DecidableEq

/-- The keyword that a word is. -/
def keyword? :
    List Char →
    Option Keyword
  | ['i', 'f'] => some .conditional
  | ['e', 'l', 's', 'e'] => some .alternative
  | ['m', 'a', 't', 'c', 'h'] => some .selection
  | ['f', 'n'] => some .function
  | ['p', 'u', 'b'] => some .exported
  | ['c', 'o', 'n', 's', 't'] => some .constant
  | ['e', 'n', 'u', 'm'] => some .enumeration
  | ['s', 't', 'r', 'u', 'c', 't'] => some .record
  | ['i', 'm', 'p', 'l'] => some .implementation
  | ['s', 'e', 'l', 'f'] => some .receiver
  | ['_'] => some .wildcard
  | _ => none

/-- The lexeme that a word is. -/
def wordLexeme
    (text : List Char) :
    Lexeme :=
  match keyword? text with
  | some keyword => .keyword keyword
  | none =>
      if Identifier.reservedWords.contains (String.ofList text) then
        .reserved (String.ofList text)
      else
        .name (String.ofList text)

/-- The mark of a character that is a mark by itself, whatever follows. -/
def singleMark? :
    Char →
    Option Mark
  | '(' => some .openParenthesis
  | ')' => some .closeParenthesis
  | '{' => some .openBrace
  | '}' => some .closeBrace
  | '[' => some .openBracket
  | ']' => some .closeBracket
  | ',' => some .comma
  | '.' => some .dot
  | ';' => some .semicolon
  | '#' => some .hash
  | '%' => some .percent
  | _ => none

/-- The mark of two characters. -/
def doubleMark? :
    Char →
    Char →
    Option Mark
  | ':', ':' => some .pathSeparator
  | '-', '>' => some .thinArrow
  | '=', '>' => some .thickArrow
  | '&', '&' => some .both
  | '|', '|' => some .either
  | '=', '=' => some .equal
  | '!', '=' => some .notEqual
  | '<', '=' => some .lessEqual
  | '>', '=' => some .greaterEqual
  | _, _ => none

/-- The mark of a character that could have begun a mark of two. -/
def loneMark? :
    Char →
    Option Mark
  | ':' => some .colon
  | '=' => some .assign
  | '&' => some .ampersand
  | '!' => some .bang
  | '<' => some .less
  | '>' => some .greater
  | _ => none

/-- Whether a character may begin a mark of two characters. -/
def beginsMark
    (character : Char) :
    Bool :=
  (loneMark? character).isSome || character == '-' || character == '|'

/-- Whether a character separates lexemes and is otherwise ignored. -/
def isSpace
    (character : Char) :
    Bool :=
  character == ' ' || character == '\n' || character == '\t' || character == '\r'

/-- What has been read of a lexeme that may still go on. -/
inductive Pending where
  | nothing
  | word (text : List Char)
  | number (digits : List Char)
  | mark (first : Char)
  | slash
  | comment
  | literal (written : List Char)
  | escape (written : List Char)
  | lifetime (name : List Char)
  deriving Repr, DecidableEq

/-- What is known after the first character of something new. -/
def begin
    (character : Char) :
    Option (List Lexeme × Pending) :=
  if isSpace character then
    some ([], .nothing)
  else if Identifier.isLead character then
    some ([], .word [character])
  else if character.isDigit then
    some ([], .number [character])
  else if beginsMark character then
    some ([], .mark character)
  else if character = '/' then
    some ([], .slash)
  else if character = '\"' then
    some ([], .literal [])
  else if character = '\'' then
    some ([], .lifetime [])
  else
    (singleMark? character).map fun mark => ([.mark mark], .nothing)

/-- The lexemes that are complete if nothing goes on. A comment ends with its line only. -/
def closing :
    Pending →
    Option (List Lexeme)
  | .nothing => some []
  | .word text => some [wordLexeme text]
  | .number digits => some [.number (Text.decimalValue digits)]
  | .mark first => (loneMark? first).map fun mark => [.mark mark]
  | .lifetime (lead :: rest) => some [.lifetime (String.ofList (lead :: rest))]
  | _ => none

/-- What a scan knows, with lexemes from before it. -/
def prepend
    (complete : List Lexeme)
    (known : List Lexeme × Pending) :
    List Lexeme × Pending :=
  (complete ++ known.1, known.2)

/-- What is known after a character that does not go on with what is pending. -/
def beginAfter
    (pending : Pending)
    (character : Char) :
    Option (List Lexeme × Pending) :=
  (closing pending).bind fun complete => (begin character).map (prepend complete)

/-- Whether a character directly after a word makes it something other than a word. -/
def spoilsWord
    (character : Char) :
    Bool :=
  character == '\"' || character == '\'' || character == '#'

/-- What is known after one more character: the lexemes that it completes, and what it leaves
pending. -/
def step
    (pending : Pending)
    (character : Char) :
    Option (List Lexeme × Pending) :=
  match pending with
  | .nothing => begin character
  | .word text =>
      if Identifier.isPart character then
        some ([], .word (text ++ [character]))
      else if spoilsWord character then
        none
      else
        beginAfter (.word text) character
  | .number digits =>
      if character.isDigit then
        some ([], .number (digits ++ [character]))
      else if Identifier.isPart character then
        none
      else
        beginAfter (.number digits) character
  | .mark first =>
      match doubleMark? first character with
      | some mark => some ([.mark mark], .nothing)
      | none => beginAfter (.mark first) character
  | .slash =>
      if character = '/' then
        some ([], .comment)
      else
        none
  | .comment =>
      if character = '\n' then
        some ([], .nothing)
      else if character = '\r' then
        none
      else
        some ([], .comment)
  | .literal written =>
      if character = '\"' then
        some ([.literal written], .nothing)
      else if character = '\\' then
        some ([], .escape written)
      else if character = '\r' then
        none
      else
        some ([], .literal (written ++ [character]))
  | .escape written => some ([], .literal (written ++ ['\\', character]))
  | .lifetime name =>
      if Identifier.isPart character then
        some ([], .lifetime (name ++ [character]))
      else if spoilsWord character then
        none
      else
        beginAfter (.lifetime name) character

/-- The lexemes that a text completes, and what is pending at its end. -/
def scan
    (pending : Pending) :
    List Char →
    Option (List Lexeme × Pending)
  | [] => some ([], pending)
  | character :: text =>
      (step pending character).bind fun known =>
        (scan known.2 text).map (prepend known.1)

/-- The lexemes of a whole text. -/
def lexemes?
    (text : List Char) :
    Option (List Lexeme) :=
  (scan .nothing text).bind fun known =>
    (closing known.2).map (known.1 ++ ·)

/-! ## Scans of texts in pieces -/

@[simp]
theorem prepend_nil
    (known : List Lexeme × Pending) :
    prepend [] known = known :=
  rfl

theorem prepend_prepend
    (first second : List Lexeme)
    (known : List Lexeme × Pending) :
    prepend first (prepend second known) = prepend (first ++ second) known := by
  simp [prepend]

/-- The scan of two texts goes on with the second where it is after the first. -/
theorem scan_append
    (pending : Pending)
    (first second : List Char) :
    scan pending (first ++ second) =
      (scan pending first).bind fun known =>
        (scan known.2 second).map (prepend known.1) := by
  induction first generalizing pending with
  | nil =>
      simp only [List.nil_append, scan, Option.bind_some]
      exact (Option.map_id_apply).symm
  | cons character text inductionHypothesis =>
      simp only [List.cons_append, scan]
      cases step pending character with
      | none =>
          rfl
      | some known =>
          simp only [Option.bind_some, inductionHypothesis]
          cases scan known.2 text with
          | none =>
              rfl
          | some further =>
              simp only [Option.bind_some, Option.map_some, Option.map_map]
              congr 1
              funext last
              exact prepend_prepend known.1 further.1 last

/-- A text has certain lexemes if nothing follows it. -/
def Spells
    (text : List Char)
    (lexemes : List Lexeme) :
    Prop :=
  lexemes? text = some lexemes

/-- A text has certain lexemes whatever follows it. -/
def Completes
    (text : List Char)
    (lexemes : List Lexeme) :
    Prop :=
  scan .nothing text = some (lexemes, .nothing)

instance
    (text : List Char)
    (lexemes : List Lexeme) :
    Decidable (Spells text lexemes) :=
  inferInstanceAs (Decidable (lexemes? text = some lexemes))

instance
    (text : List Char)
    (lexemes : List Lexeme) :
    Decidable (Completes text lexemes) :=
  inferInstanceAs (Decidable (scan .nothing text = some (lexemes, .nothing)))

/-- The characters that end whatever lexeme stands before them, comments and literals apart. -/
def delimiters :
    List Char :=
  [' ', '\n', '\t', '\r', '(', ')', '{', '}', '[', ']', ',', '.', ';', '%']

theorem isPart_delimiter
    {character : Char}
    (delimiter : character ∈ delimiters) :
    Identifier.isPart character = false ∧ character.isDigit = false ∧
      spoilsWord character = false := by
  have all :
      delimiters.all fun character =>
        !Identifier.isPart character && !character.isDigit && !spoilsWord character := by
    decide
  have holds := List.all_eq_true.mp all character delimiter
  simpa [and_assoc] using holds

theorem doubleMark?_delimiter
    (first : Char)
    {character : Char}
    (delimiter : character ∈ delimiters) :
    doubleMark? first character = none := by
  unfold doubleMark?
  split <;> first | rfl | (revert delimiter; decide)

/-- What is pending before a delimiter is complete. -/
theorem step_delimiter
    {pending : Pending}
    {complete : List Lexeme}
    {character : Char}
    (closed : closing pending = some complete)
    (delimiter : character ∈ delimiters) :
    step pending character = (begin character).map (prepend complete) := by
  obtain ⟨noPart, noDigit, harmless⟩ := isPart_delimiter delimiter
  have alone : beginAfter pending character = (begin character).map (prepend complete) := by
    simp [beginAfter, closed]
  cases pending with
  | nothing =>
      cases closed
      exact Option.map_id_apply.symm
  | word text =>
      simpa [step, noPart, harmless] using alone
  | number digits =>
      simpa [step, noPart, noDigit] using alone
  | mark first =>
      simpa [step, doubleMark?_delimiter first delimiter] using alone
  | lifetime name =>
      simpa [step, noPart, harmless] using alone
  | slash | comment | literal | escape =>
      cases closed

/-- A text before a delimiter has the lexemes that it has alone. -/
theorem Spells.scan_delimited
    {first second : List Char}
    {firstLexemes : List Lexeme}
    {character : Char}
    (spelled : Spells first firstLexemes)
    (delimiter : character ∈ delimiters) :
    scan .nothing (first ++ character :: second) =
      (scan .nothing (character :: second)).map (prepend firstLexemes) := by
  unfold Spells lexemes? at spelled
  obtain ⟨known, scanned, closed⟩ := Option.bind_eq_some_iff.mp spelled
  obtain ⟨last, lastClosed, rfl⟩ := Option.map_eq_some_iff.mp closed
  have fromNothing :
      scan .nothing (character :: second) =
        (begin character).bind fun known =>
          (scan known.2 second).map (prepend known.1) :=
    rfl
  rw [scan_append, scanned, fromNothing]
  simp only [Option.bind_some, scan, step_delimiter lastClosed delimiter]
  cases begin character with
  | none =>
      rfl
  | some begun =>
      simp only [Option.map_some, Option.bind_some, prepend]
      cases scan begun.2 second with
      | none =>
          rfl
      | some further =>
          simp [prepend]

/-- A text goes on after a delimiter. -/
theorem Spells.append
    {first second : List Char}
    {firstLexemes secondLexemes : List Lexeme}
    {character : Char}
    (spelled : Spells first firstLexemes)
    (delimiter : character ∈ delimiters)
    (further : Spells (character :: second) secondLexemes) :
    Spells (first ++ character :: second) (firstLexemes ++ secondLexemes) := by
  unfold Spells lexemes? at further ⊢
  obtain ⟨known, scanned, closed⟩ := Option.bind_eq_some_iff.mp further
  obtain ⟨last, lastClosed, rfl⟩ := Option.map_eq_some_iff.mp closed
  simp [spelled.scan_delimited delimiter, scanned, prepend, lastClosed]

/-- A text is complete where a complete text goes on after a delimiter. -/
theorem Spells.completes
    {first second : List Char}
    {firstLexemes secondLexemes : List Lexeme}
    {character : Char}
    (spelled : Spells first firstLexemes)
    (delimiter : character ∈ delimiters)
    (further : Completes (character :: second) secondLexemes) :
    Completes (first ++ character :: second) (firstLexemes ++ secondLexemes) := by
  unfold Completes at further ⊢
  simp [spelled.scan_delimited delimiter, further, prepend]

namespace Completes

theorem spells
    {text : List Char}
    {lexemes : List Lexeme}
    (complete : Completes text lexemes) :
    Spells text lexemes := by
  unfold Completes at complete
  simp [Spells, lexemes?, complete, closing]

theorem nil :
    Completes [] [] :=
  rfl

/-- Nothing of a complete text runs into the text that follows it. -/
theorem append
    {first second : List Char}
    {firstLexemes secondLexemes : List Lexeme}
    (complete : Completes first firstLexemes)
    (further : Completes second secondLexemes) :
    Completes (first ++ second) (firstLexemes ++ secondLexemes) := by
  unfold Completes at complete further ⊢
  simp [scan_append, complete, further, prepend]

theorem spells_append
    {first second : List Char}
    {firstLexemes secondLexemes : List Lexeme}
    (complete : Completes first firstLexemes)
    (further : Spells second secondLexemes) :
    Spells (first ++ second) (firstLexemes ++ secondLexemes) := by
  unfold Completes at complete
  unfold Spells lexemes? at further ⊢
  obtain ⟨known, scanned, closed⟩ := Option.bind_eq_some_iff.mp further
  obtain ⟨last, lastClosed, rfl⟩ := Option.map_eq_some_iff.mp closed
  simp [scan_append, complete, scanned, prepend, lastClosed]

end Completes

/-! ## Words and numbers -/

theorem scan_wordParts
    (text : List Char)
    {further : List Char}
    (parts : further.all Identifier.isPart) :
    scan (.word text) further = some ([], .word (text ++ further)) := by
  induction further generalizing text with
  | nil =>
      simp [scan]
  | cons character further inductionHypothesis =>
      rw [List.all_cons, Bool.and_eq_true] at parts
      simp [scan, step, parts.1, inductionHypothesis (text ++ [character]) parts.2]

theorem begin_lead
    {character : Char}
    (lead : Identifier.isLead character) :
    begin character = some ([], .word [character]) := by
  have noSpace : isSpace character = false := by
    refine Bool.eq_false_iff.mpr fun space => ?_
    simp only [isSpace, Bool.or_eq_true, beq_iff_eq] at space
    rcases space with ((rfl | rfl) | rfl) | rfl <;> revert lead <;> decide
  simp [begin, noSpace, lead]

/-- A text with the shape of a name is one word. -/
theorem spells_word
    {text : List Char}
    (name : Identifier.isName text) :
    Spells text [wordLexeme text] := by
  cases text with
  | nil =>
      cases name
  | cons lead rest =>
      rw [Identifier.isName, Bool.and_eq_true] at name
      simp [Spells, lexemes?, scan, step, begin_lead name.1, scan_wordParts [lead] name.2,
        closing]

/-- Every keyword is a reserved word or the lone underscore. -/
theorem reserved_of_keyword?
    {text : List Char}
    {keyword : Keyword}
    (found : keyword? text = some keyword) :
    text = ['_'] ∨ String.ofList text ∈ Identifier.reservedWords := by
  unfold keyword? at found
  split at found
  all_goals first | cases found; done | decide

/-- A legal identifier is a name. -/
theorem wordLexeme_of_isLegal
    {name : String}
    (legal : Identifier.isLegal name) :
    wordLexeme name.toList = .name name := by
  simp only [Identifier.isLegal, Bool.and_eq_true, bne_iff_ne, ne_eq, Bool.not_eq_true',
    List.contains_eq_mem, decide_eq_false_iff_not] at legal
  obtain ⟨⟨notBlank, _⟩, notReserved⟩ := legal
  have noKeyword : keyword? name.toList = none := by
    refine Option.eq_none_iff_forall_ne_some.mpr fun keyword found => ?_
    rcases reserved_of_keyword? found with blank | reserved
    · exact notBlank (String.toList_inj.mp blank)
    · rw [String.ofList_toList] at reserved
      exact notReserved reserved
  simp [wordLexeme, noKeyword, notReserved]

theorem spells_name
    {name : String}
    (legal : Identifier.isLegal name) :
    Spells name.toList [.name name] := by
  have shape : Identifier.isName name.toList := by
    simp only [Identifier.isLegal, Bool.and_eq_true] at legal
    exact legal.1.2
  rw [← wordLexeme_of_isLegal legal]
  exact spells_word shape

/-- A complete text goes on with a name before a delimiter. -/
theorem Completes.name
    {before after : List Char}
    {beforeLexemes afterLexemes : List Lexeme}
    {name : String}
    {character : Char}
    (complete : Completes before beforeLexemes)
    (legal : Identifier.isLegal name)
    (delimiter : character ∈ delimiters)
    (further : Completes (character :: after) afterLexemes) :
    Completes (before ++ (name.toList ++ character :: after))
      (beforeLexemes ++ .name name :: afterLexemes) :=
  complete.append ((spells_name legal).completes delimiter further)

/-- A colon ends a name, and a space ends the colon. -/
theorem completes_name_colon
    {name : String}
    (legal : Identifier.isLegal name) :
    Completes (name.toList ++ [':', ' ']) [.name name, .mark .colon] := by
  have shape : Identifier.isName name.toList := by
    simp only [Identifier.isLegal, Bool.and_eq_true] at legal
    exact legal.1.2
  have word := wordLexeme_of_isLegal legal
  generalize name.toList = text at shape word
  cases text with
  | nil =>
      cases shape
  | cons lead rest =>
      rw [Identifier.isName, Bool.and_eq_true] at shape
      have ended :
          scan (.word ([lead] ++ rest)) [':', ' '] =
            some ([wordLexeme (lead :: rest), .mark .colon], .nothing) :=
        rfl
      unfold Completes
      rw [List.cons_append, scan, step, begin_lead shape.1, Option.bind_some, scan_append,
        scan_wordParts [lead] shape.2, Option.bind_some, ended, word]
      rfl

theorem scan_digits
    (digits : List Char)
    {further : List Char}
    (decimal : further.all Char.isDigit) :
    scan (.number digits) further = some ([], .number (digits ++ further)) := by
  induction further generalizing digits with
  | nil =>
      simp [scan]
  | cons character further inductionHypothesis =>
      rw [List.all_cons, Bool.and_eq_true] at decimal
      simp [scan, step, decimal.1, inductionHypothesis (digits ++ [character]) decimal.2]

theorem isLead_digit
    {character : Char}
    (decimal : character.isDigit) :
    Identifier.isLead character = false := by
  refine Bool.eq_false_iff.mpr fun lead => ?_
  simp only [Identifier.isLead, Bool.or_eq_true, beq_iff_eq] at lead
  rcases lead with letter | rfl
  · simp [Char.isAlpha, Char.isUpper, Char.isLower, Char.isDigit, UInt32.le_iff_toNat_le]
      at letter decimal
    omega
  · revert decimal
    decide

theorem begin_digit
    {character : Char}
    (decimal : character.isDigit) :
    begin character = some ([], .number [character]) := by
  have noSpace : isSpace character = false := by
    refine Bool.eq_false_iff.mpr fun space => ?_
    simp only [isSpace, Bool.or_eq_true, beq_iff_eq] at space
    rcases space with ((rfl | rfl) | rfl) | rfl <;> revert decimal <;> decide
  simp [begin, noSpace, isLead_digit decimal, decimal]

/-- The digits of a number are read as that number. -/
theorem spells_number
    (value : Nat) :
    Spells (Nat.toDigits 10 value) [.number value] := by
  have decimal : (Nat.toDigits 10 value).all Char.isDigit :=
    List.all_eq_true.mpr fun _ member =>
      Nat.isDigit_of_mem_toDigits (by decide) (by decide) member
  have denoted := Text.decimalValue_toDigits value
  cases digits : Nat.toDigits 10 value with
  | nil =>
      exact (Nat.toDigits_ne_nil digits).elim
  | cons first rest =>
      rw [digits, List.all_cons, Bool.and_eq_true] at decimal
      rw [digits] at denoted
      simp [Spells, lexemes?, scan, step, begin_digit decimal.1, scan_digits [first] decimal.2,
        closing, denoted]

/-! ## The mark of a negation -/

theorem doubleMark?_bang
    {character : Char}
    (apart : character ≠ '=') :
    doubleMark? '!' character = none := by
  unfold doubleMark?
  split <;> first | rfl | contradiction

/-- An exclamation mark is a mark by itself unless an equals sign follows it. -/
theorem spells_bang
    {text : List Char}
    {lexemes : List Lexeme}
    (spelled : Spells text lexemes)
    (apart : text.head? ≠ some '=') :
    Spells ('!' :: text) (.mark .bang :: lexemes) := by
  have begun : begin '!' = some ([], .mark '!') := rfl
  cases text with
  | nil =>
      cases spelled
      rfl
  | cons character text =>
      have separate : doubleMark? '!' character = none :=
        doubleMark?_bang fun same => apart (congrArg some same)
      unfold Spells lexemes? at spelled ⊢
      obtain ⟨known, scanned, closed⟩ := Option.bind_eq_some_iff.mp spelled
      obtain ⟨last, lastClosed, rfl⟩ := Option.map_eq_some_iff.mp closed
      rw [scan, step] at scanned
      obtain ⟨first, firstBegun, further⟩ := Option.bind_eq_some_iff.mp scanned
      obtain ⟨rest, restScanned, rfl⟩ := Option.map_eq_some_iff.mp further
      have bangClosed : closing (.mark '!') = some [.mark .bang] := rfl
      simp only [prepend] at lastClosed
      simp [scan, step, begun, separate, beginAfter, bangClosed, firstBegun, restScanned, prepend,
        lastClosed]

end Phrasebook.Generated
