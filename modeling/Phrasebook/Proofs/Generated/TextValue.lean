import Mathlib
import Phrasebook.Document.Character
import Phrasebook.Placeholder.Basic
import Phrasebook.Proofs.Generated.Execution
import Phrasebook.Proofs.Text.Quoted

namespace Phrasebook.Generated

/-!
# Strings that generated code makes

What an expression that makes a string evaluates to. The written characters of a literal are read
first, and what they stand for is the text of the string or its template. In a template two braces
of one kind stand for one, and a name between braces stands for the value of the parameter of that
name. Escapes of bytes and of line ends, and everything else in braces, are refused: generated code
has no use for them.
-/

/-! ## Literals -/

/-- The character that a backslash and a letter stand for. -/
def shortEscape? :
    Char →
    Option Char
  | '0' => some '\x00'
  | 't' => some '\t'
  | 'r' => some '\r'
  | 'n' => some '\n'
  | '\\' => some '\\'
  | '\"' => some '\"'
  | '\'' => some '\''
  | _ => none

/-- How far the written form of a character has been read. -/
inductive EscapeProgress where
  | nothing
  | backslash
  | letter
  | code (digits : List Char)

/-- The character of a code of one to six hexadecimal digits. -/
def codePoint?
    (digits : List Char) :
    Option Char :=
  if digits.isEmpty || 6 < digits.length then
    none
  else
    Document.codedCharacter? digits

/-- The characters that the written characters of a literal stand for. -/
def literalValue? :
    EscapeProgress →
    List Char →
    Option (List Char)
  | .nothing, [] => some []
  | _, [] => none
  | .nothing, character :: written =>
      if character = '\\' then
        literalValue? .backslash written
      else if character = '\"' ∨ character = '\r' then
        none
      else
        (literalValue? .nothing written).map (character :: ·)
  | .backslash, character :: written =>
      if character = 'u' then
        literalValue? .letter written
      else
        match shortEscape? character with
        | some denoted => (literalValue? .nothing written).map (denoted :: ·)
        | none => none
  | .letter, character :: written =>
      if character = '{' then
        literalValue? (.code []) written
      else
        none
  | .code digits, character :: written =>
      if character = '}' then
        match codePoint? digits with
        | some denoted => (literalValue? .nothing written).map (denoted :: ·)
        | none => none
      else
        literalValue? (.code (digits ++ [character])) written

theorem readHexadecimal_concat
    {digits : List Char}
    {character : Char}
    {start value digit : Nat}
    (read : Properties.readHexadecimal start digits.length digits = .ok (value, []))
    (isDigit : Properties.hexadecimalValue? character = some digit) :
    Properties.readHexadecimal start (digits ++ [character]).length (digits ++ [character]) =
      .ok (value * 16 + digit, []) := by
  induction digits generalizing start with
  | nil =>
      cases read
      simp [Properties.readHexadecimal, isDigit]
  | cons first digits inductionHypothesis =>
      simp only [List.cons_append, List.length_cons, Properties.readHexadecimal] at read ⊢
      split at read
      · cases read
      · exact inductionHypothesis read

/-- The digits of a number are read as that number. -/
theorem readHexadecimal_hexadecimal
    (number : Nat) :
    Properties.readHexadecimal 0 (Text.hexadecimal number).length (Text.hexadecimal number) =
      .ok (number, []) := by
  have digitValue :
      ∀ digit < 16, Properties.hexadecimalValue? (Nat.digitChar digit) = some digit := by
    decide
  induction number using Nat.strongRecOn with
  | ind number inductionHypothesis =>
      rw [Text.hexadecimal, Nat.toDigits_eq_if (by decide)]
      split
      · rename_i small
        simp [Properties.readHexadecimal, digitValue number small]
      · rename_i large
        have earlier := inductionHypothesis (number / 16) (Nat.div_lt_self (by omega) (by decide))
        rw [← Text.hexadecimal,
          readHexadecimal_concat earlier (digitValue (number % 16) (Nat.mod_lt _ (by decide))),
          Nat.div_add_mod']

/-- The code point of a character is read as that character. -/
theorem codePoint?_hexadecimal
    (character : Char) :
    codePoint? (Text.hexadecimal character.toNat) = some character := by
  have notEmpty : (Text.hexadecimal character.toNat).isEmpty = false := by
    simp [Text.hexadecimal, Nat.toDigits_ne_nil]
  have valid : character.toNat.isValidChar := character.valid
  have bounded : character.toNat < 16 ^ 6 := by
    rcases valid with low | ⟨-, high⟩ <;> omega
  have short : (Text.hexadecimal character.toNat).length ≤ 6 :=
    (Nat.length_toDigits_le_iff (by decide) (by decide)).mpr bounded
  rw [codePoint?, notEmpty, Bool.false_or, if_neg (by simpa using short), Document.codedCharacter?,
    readHexadecimal_hexadecimal]
  simp [valid]

theorem literalValue?_code
    {digits : List Char}
    (known : List Char)
    {character : Char}
    (noBrace : '}' ∉ digits)
    (denoted : codePoint? (known ++ digits) = some character)
    (written : List Char) :
    literalValue? (.code known) (digits ++ '}' :: written) =
      (literalValue? .nothing written).map (character :: ·) := by
  induction digits generalizing known with
  | nil =>
      rw [List.append_nil] at denoted
      simp [literalValue?, denoted]
  | cons first digits inductionHypothesis =>
      rw [List.mem_cons, not_or] at noBrace
      rw [List.cons_append, literalValue?, if_neg (Ne.symm noBrace.1)]
      exact inductionHypothesis (known ++ [first]) noBrace.2 (by simpa using denoted)

/-- The written form of a character is read as that character. -/
theorem literalValue?_escaped
    (character : Char)
    (written : List Char) :
    literalValue? .nothing (Text.escaped character ++ written) =
      (literalValue? .nothing written).map (character :: ·) := by
  unfold Text.escaped
  split
  · rename_i same
    simp [literalValue?, shortEscape?, same]
  split
  · rename_i same
    simp [literalValue?, shortEscape?, same]
  split
  · rename_i same
    simp [literalValue?, shortEscape?, same]
  split
  · rename_i same
    simp [literalValue?, shortEscape?, same]
  split
  · rename_i same
    simp [literalValue?, shortEscape?, same]
  split
  · rename_i same
    simp [literalValue?, shortEscape?, same]
  split
  · have noBrace : '}' ∉ Text.hexadecimal character.toNat := by
      intro member
      obtain ⟨digit, same⟩ := Text.exists_digitChar_of_mem_toDigits (by decide) _ member
      exact Nat.digitChar_ne _ (by decide) same.symm
    have coded := literalValue?_code [] noBrace (codePoint?_hexadecimal character) written
    simpa [literalValue?] using coded
  · rename_i _ _ noReturn _ noBackslash noQuote _
    simp [literalValue?, noReturn, noBackslash, noQuote]

/-- What stands between quotation marks is read as the text that was quoted. -/
theorem literalValue?_flatMap_escaped
    (text : List Char) :
    literalValue? .nothing (text.flatMap Text.escaped) = some text := by
  induction text with
  | nil =>
      rfl
  | cons character text inductionHypothesis =>
      rw [List.flatMap_cons, literalValue?_escaped, inductionHypothesis]
      rfl

/-! ## Templates -/

/-- A character of a template, or the name of the parameter whose value stands there. -/
inductive TemplatePart where
  | character (single : Char)
  | parameter (name : String)
  deriving Repr, DecidableEq

/-- How far a part of a template has been read. -/
inductive TemplateProgress where
  | nothing
  | opened (name : List Char)
  | closed

/-- Whether a text can be the name of a parameter. A lone underscore is none. -/
def isParameterName
    (text : List Char) :
    Bool :=
  Identifier.isName text && text != ['_']

/-- The parts of a template. -/
def templateParts? :
    TemplateProgress →
    List Char →
    Option (List TemplatePart)
  | .nothing, [] => some []
  | _, [] => none
  | .nothing, character :: text =>
      if character = '{' then
        templateParts? (.opened []) text
      else if character = '}' then
        templateParts? .closed text
      else
        (templateParts? .nothing text).map (.character character :: ·)
  | .opened name, character :: text =>
      if character = '{' then
        if name.isEmpty then
          (templateParts? .nothing text).map (.character '{' :: ·)
        else
          none
      else if character = '}' then
        if isParameterName name then
          (templateParts? .nothing text).map (.parameter (String.ofList name) :: ·)
        else
          none
      else
        templateParts? (.opened (name ++ [character])) text
  | .closed, character :: text =>
      if character = '}' then
        (templateParts? .nothing text).map (.character '}' :: ·)
      else
        none

theorem templateParts?_name
    {name : List Char}
    (known : List Char)
    (parts : name.all Identifier.isPart)
    (isName : isParameterName (known ++ name))
    (text : List Char) :
    templateParts? (.opened known) (name ++ '}' :: text) =
      (templateParts? .nothing text).map (.parameter (String.ofList (known ++ name)) :: ·) := by
  induction name generalizing known with
  | nil =>
      rw [List.append_nil] at isName
      simp [templateParts?, isName]
  | cons first name inductionHypothesis =>
      rw [List.all_cons, Bool.and_eq_true] at parts
      have noOpening : first ≠ '{' := by
        rintro rfl
        exact absurd parts.1 (by decide)
      have noClosing : first ≠ '}' := by
        rintro rfl
        exact absurd parts.1 (by decide)
      rw [List.cons_append, templateParts?, if_neg noOpening, if_neg noClosing,
        inductionHypothesis (known ++ [first]) parts.2 (by simpa using isName)]
      simp

/-! ## Values -/

/-- What can be given for a parameter. -/
inductive ArgumentValue where
  | text (value : String)
  | integer (value : Int64)
  deriving Repr, DecidableEq

namespace ArgumentValue

/-- A value as it is shown in a string. -/
def shown :
    ArgumentValue →
    List Char
  | .text value => value.toList
  | .integer value => (toString value.toInt).toList

end ArgumentValue

/-- The text of a template whose parameters have values. -/
def fill?
    (parameters : List (String × ArgumentValue)) :
    List TemplatePart →
    Option (List Char)
  | [] => some []
  | .character single :: parts => (fill? parameters parts).map (single :: ·)
  | .parameter name :: parts =>
      match parameters.lookup name with
      | some value => (fill? parameters parts).map (value.shown ++ ·)
      | none => none

/-- The string that an expression evaluates to, where its parameters have values. -/
def TextExpression.value?
    (parameters : List (String × ArgumentValue)) :
    TextExpression →
    Option (List Char)
  | .empty => some []
  | .converted written => literalValue? .nothing written
  | .formatted written =>
      (literalValue? .nothing written).bind fun template =>
        (templateParts? .nothing template).bind (fill? parameters)

end Phrasebook.Generated
