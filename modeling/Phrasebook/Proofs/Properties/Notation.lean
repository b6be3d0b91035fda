import Mathlib
import Phrasebook.Proofs.Text.Encoding
import Phrasebook.Proofs.Text.Lines
import Phrasebook.Properties.Declaration
import Phrasebook.Properties.Escape

namespace Phrasebook.Properties

/-!
# How characters are written

A character is written raw where that is allowed, or as one of its escapes. Joining lines, finding
the separator and decoding are three scans that each keep track of which backslash escapes what.
They agree on texts in which every backslash has its character after it.
-/

/-! ## Escapes -/

/-- Whether a character is the hexadecimal digit of a value, in either case. -/
def IsDigitOf
    (value : Nat)
    (digit : Char) :
    Prop :=
  "0123456789abcdef".toList[value]? = some digit ∨
    "0123456789ABCDEF".toList[value]? = some digit

/-- The four hexadecimal digits of a code unit. -/
inductive WritesUnit :
    Nat →
    List Char →
    Prop where
  | digits
      {first second third fourth : Nat}
      {firstDigit secondDigit thirdDigit fourthDigit : Char} :
      IsDigitOf first firstDigit →
      IsDigitOf second secondDigit →
      IsDigitOf third thirdDigit →
      IsDigitOf fourth fourthDigit →
      WritesUnit (((first * 16 + second) * 16 + third) * 16 + fourth)
        [firstDigit, secondDigit, thirdDigit, fourthDigit]

/-- The escapes of a character: a letter for a control character, the character itself, or its
code units in UTF-16. -/
inductive IsEscapeOf :
    Char →
    List Char →
    Prop where
  | letter
      {character letter : Char} :
      (character, letter) ∈ [('\t', 't'), ('\n', 'n'), ('\r', 'r'), ('\x0c', 'f')] →
      IsEscapeOf character ['\\', letter]
  | itself
      {character : Char} :
      character ∉ ['t', 'n', 'r', 'f', 'u', '\r', '\n'] →
      IsEscapeOf character ['\\', character]
  | unit
      {character : Char}
      {digits : List Char} :
      WritesUnit character.toNat digits →
      IsEscapeOf character ('\\' :: 'u' :: digits)
  | pair
      {character : Char}
      {high low : Nat}
      {highDigits lowDigits : List Char} :
      0xD800 ≤ high →
      high < 0xDC00 →
      0xDC00 ≤ low →
      low < 0xE000 →
      character.toNat = 0x10000 + (high - 0xD800) * 0x400 + (low - 0xDC00) →
      WritesUnit high highDigits →
      WritesUnit low lowDigits →
      IsEscapeOf character ('\\' :: 'u' :: highDigits ++ '\\' :: 'u' :: lowDigits)

theorem lt_of_isDigitOf
    {value : Nat}
    {digit : Char}
    (isDigit : IsDigitOf value digit) :
    value < 16 := by
  rcases isDigit with isLower | isUpper
  · exact (List.getElem?_eq_some_iff.mp isLower).1
  · exact (List.getElem?_eq_some_iff.mp isUpper).1

/-- A hexadecimal digit is read as its value. -/
theorem hexadecimalValue?_of_isDigitOf
    {value : Nat}
    {digit : Char}
    (isDigit : IsDigitOf value digit) :
    hexadecimalValue? digit = some value := by
  have bounded := lt_of_isDigitOf isDigit
  rcases isDigit with isLower | isUpper
  · interval_cases value <;> cases isLower <;> rfl
  · interval_cases value <;> cases isUpper <;> rfl

/-- The digits of a code unit are read as that code unit. -/
theorem readUnit_of_writesUnit
    {unit : Nat}
    {digits : List Char}
    (writes : WritesUnit unit digits)
    (text : List Char) :
    readUnit (digits ++ text) = .ok (unit, text) := by
  cases writes with
  | digits first second third fourth =>
      simp [readUnit, readHexadecimal, hexadecimalValue?_of_isDigitOf first,
        hexadecimalValue?_of_isDigitOf second, hexadecimalValue?_of_isDigitOf third,
        hexadecimalValue?_of_isDigitOf fourth]

/-! ## Decoding -/

theorem decode_raw
    {character : Char}
    (noBackslash : character ≠ '\\')
    (text : List Char) :
    decode (character :: text) = (decode text).map (⟨character, true⟩ :: ·) := by
  rw [decode]
  · rintro rfl
    exact absurd rfl noBackslash
  · rintro _ rfl
    exact absurd rfl noBackslash
  · rintro _ _ rfl
    exact absurd rfl noBackslash

theorem decode_unicode
    {text rest : List Char}
    {character : Char}
    (read : readUnicode text = .ok (character, rest)) :
    decode ('\\' :: 'u' :: text) = (decode rest).map (⟨character, false⟩ :: ·) := by
  rw [decode]
  split
  · rename_i same
    rw [read] at same
    cases same
  · rename_i same
    rw [read] at same
    cases same
    rfl

theorem decode_backslash
    {character : Char}
    (noUnit : character ≠ 'u')
    (text : List Char) :
    decode ('\\' :: character :: text) =
      (decode text).map (⟨escapedCharacter character, false⟩ :: ·) := by
  rw [decode]
  rintro rfl
  exact noUnit rfl

/-- An escape is decoded to its character, which does not count as written plainly. -/
theorem decode_of_isEscapeOf
    {character : Char}
    {written : List Char}
    (isEscape : IsEscapeOf character written)
    (text : List Char) :
    decode (written ++ text) = (decode text).map (⟨character, false⟩ :: ·) := by
  cases isEscape with
  | letter isLetter =>
      simp only [List.mem_cons, Prod.mk.injEq, List.not_mem_nil, or_false] at isLetter
      rcases isLetter with ⟨rfl, rfl⟩ | ⟨rfl, rfl⟩ | ⟨rfl, rfl⟩ | ⟨rfl, rfl⟩
      all_goals exact decode_backslash (by decide) text
  | itself noLetter =>
      simp only [List.mem_cons, List.not_mem_nil, or_false, not_or] at noLetter
      obtain ⟨noTab, noFeed, noReturn, noForm, noUnit, -⟩ := noLetter
      have same : escapedCharacter character = character := by
        unfold escapedCharacter
        split <;> first | rfl | contradiction
      rw [List.cons_append, List.cons_append, List.nil_append, decode_backslash noUnit, same]
  | unit writes =>
      rw [List.cons_append, List.cons_append]
      refine decode_unicode ?_
      obtain ⟨noHigh, noLow⟩ := Text.no_surrogate character
      simp [readUnicode, readUnit_of_writesUnit writes, noHigh, noLow]
  | @pair high low _ _ highLeast highMost lowLeast lowMost code writesHigh writesLow =>
      have isHigh : Text.isHighSurrogate high := by
        simp [Text.isHighSurrogate, highLeast, highMost]
      have isLow : Text.isLowSurrogate low := by
        simp [Text.isLowSurrogate, lowLeast, lowMost]
      have paired : Text.pairedSurrogates high low = character := by
        rw [Text.pairedSurrogates, ← code, Char.ofNat_toNat]
      simp only [List.cons_append, List.append_assoc]
      refine decode_unicode ?_
      simp [readUnicode, readUnit_of_writesUnit writesHigh, isHigh, readLowSurrogate,
        readUnit_of_writesUnit writesLow, isLow, paired]

/-! ## Closed texts -/

/-- Whether a character may be written raw anywhere. -/
def isRaw
    (character : Char) :
    Bool :=
  character != '\\' && character != '\r' && character != '\n'

/-- Whether a character may be written raw in a key. -/
def isRawInKey
    (character : Char) :
    Bool :=
  isRaw character && !isBlank character && !isEquals character

/-- Whether a character may be written raw in a value. -/
def isRawInValue
    (character : Char) :
    Bool :=
  isRaw character && character != '|'

/-- Whether every backslash of a text has its character after it, and every other character of the
text meets a condition. -/
inductive IsClosed
    (isPlain : Char → Bool) :
    List Char →
    Prop where
  | nil :
      IsClosed isPlain []
  | plain
      {character : Char}
      {text : List Char} :
      isPlain character →
      IsClosed isPlain text →
      IsClosed isPlain (character :: text)
  | escaped
      {character : Char}
      {text : List Char} :
      character ≠ '\n' →
      character ≠ '\r' →
      IsClosed isPlain text →
      IsClosed isPlain ('\\' :: character :: text)

namespace IsClosed

variable
  {isPlain isPlainToo : Char → Bool}
  {first second text : List Char}

theorem append
    (firstClosed : IsClosed isPlain first)
    (secondClosed : IsClosed isPlain second) :
    IsClosed isPlain (first ++ second) := by
  induction firstClosed with
  | nil =>
      exact secondClosed
  | plain isPlain _ inductionHypothesis =>
      exact .plain isPlain inductionHypothesis
  | escaped noFeed noReturn _ inductionHypothesis =>
      exact .escaped noFeed noReturn inductionHypothesis

theorem mono
    (closed : IsClosed isPlain text)
    (implies : ∀ character, isPlain character → isPlainToo character) :
    IsClosed isPlainToo text := by
  induction closed with
  | nil =>
      exact .nil
  | plain isPlain _ inductionHypothesis =>
      exact .plain (implies _ isPlain) inductionHypothesis
  | escaped noFeed noReturn _ inductionHypothesis =>
      exact .escaped noFeed noReturn inductionHypothesis

theorem of_forall
    (all : ∀ character ∈ text, isPlain character) :
    IsClosed isPlain text := by
  induction text with
  | nil =>
      exact .nil
  | cons character text inductionHypothesis =>
      rw [List.forall_mem_cons] at all
      exact .plain all.1 (inductionHypothesis all.2)

/-- A closed text ends no line. -/
theorem isOneLine
    (closed : IsClosed isRaw text) :
    Text.IsOneLine text := by
  induction closed with
  | nil =>
      exact List.forall_mem_nil _
  | plain isRaw _ inductionHypothesis =>
      refine List.forall_mem_cons.mpr ⟨?_, inductionHypothesis⟩
      simp only [Properties.isRaw, Bool.and_eq_true, bne_iff_ne] at isRaw
      exact ⟨isRaw.2, isRaw.1.2⟩
  | escaped noFeed noReturn _ inductionHypothesis =>
      exact List.forall_mem_cons.mpr
        ⟨by decide, List.forall_mem_cons.mpr ⟨⟨noFeed, noReturn⟩, inductionHypothesis⟩⟩

end IsClosed

/-- Whether a text ends in an odd number of backslashes is told by its last character and by what
stands before that. -/
theorem isContinued_concat
    (text : List Char)
    (character : Char) :
    isContinued (text ++ [character]) = (character == '\\' && !isContinued text) := by
  simp only [isContinued, List.reverse_append, List.reverse_singleton, List.singleton_append,
    List.takeWhile_cons]
  cases character == '\\' with
  | false =>
      rfl
  | true =>
      rw [if_pos rfl, List.length_cons, Bool.true_and]
      generalize (text.reverse.takeWhile (· == '\\')).length = count
      rcases Nat.mod_two_eq_zero_or_one count with even | odd
      · simp [Nat.add_mod, even]
      · simp [Nat.add_mod, odd]

theorem isContinued_append_right
    {front : List Char}
    (even : isContinued front = false)
    (text : List Char) :
    isContinued (front ++ text) = isContinued text := by
  induction text using List.reverseRecOn with
  | nil =>
      rw [List.append_nil, even]
      rfl
  | append_singleton text character inductionHypothesis =>
      rw [← List.append_assoc, isContinued_concat, isContinued_concat, inductionHypothesis]

theorem isContinued_cons
    {character : Char}
    (noBackslash : character ≠ '\\')
    (text : List Char) :
    isContinued (character :: text) = isContinued text := by
  have even : isContinued [character] = false := by
    rw [← List.nil_append [character], isContinued_concat, beq_eq_false_iff_ne.mpr noBackslash]
    rfl
  exact isContinued_append_right even text

/-- A backslash and the character that it escapes leave the rest of a text as it is. -/
theorem isContinued_escaped
    (character : Char)
    (text : List Char) :
    isContinued ('\\' :: character :: text) = isContinued text := by
  have even : isContinued ['\\', character] = false := by
    rw [← List.singleton_append, isContinued_concat]
    exact Bool.and_false _
  exact isContinued_append_right even text

/-- A closed text leaves open what was open before it. -/
theorem isContinued_append
    {before text : List Char}
    (closed : IsClosed isRaw text)
    (even : isContinued before = false) :
    isContinued (before ++ text) = false := by
  rw [isContinued_append_right even]
  induction closed with
  | nil =>
      rfl
  | plain isRaw _ inductionHypothesis =>
      simp only [Properties.isRaw, Bool.and_eq_true, bne_iff_ne] at isRaw
      rw [isContinued_cons isRaw.1.1, inductionHypothesis]
  | escaped _ _ _ inductionHypothesis =>
      rw [isContinued_escaped, inductionHypothesis]

/-- The separator is looked for after a closed text without unescaped separators. -/
theorem splitKey_append
    {text : List Char}
    (closed : IsClosed isRawInKey text)
    (line : List Char) :
    splitKey false (text ++ line) =
      (text ++ (splitKey false line).1, (splitKey false line).2) := by
  induction closed with
  | nil =>
      rfl
  | plain isRaw _ inductionHypothesis =>
      simp only [isRawInKey, Properties.isRaw, Bool.and_eq_true, bne_iff_ne,
        Bool.not_eq_true'] at isRaw
      obtain ⟨⟨⟨⟨noBackslash, -⟩, -⟩, noBlank⟩, noEquals⟩ := isRaw
      rw [List.cons_append, splitKey]
      simp [beq_eq_false_iff_ne.mpr noBackslash, noBlank, noEquals, inductionHypothesis]
  | escaped noFeed noReturn _ inductionHypothesis =>
      rw [List.cons_append, List.cons_append, splitKey, splitKey]
      simp [inductionHypothesis, isEquals, isBlank]

/-! ## Keys and variants -/

/-- Whether some pieces write some characters, each raw where that is allowed or as an escape. -/
inductive Writes
    (isPlain : Char → Bool) :
    List Char →
    List (List Char) →
    Prop where
  | nil :
      Writes isPlain [] []
  | raw
      {character : Char}
      {characters : List Char}
      {pieces : List (List Char)} :
      isPlain character →
      Writes isPlain characters pieces →
      Writes isPlain (character :: characters) ([character] :: pieces)
  | escape
      {character : Char}
      {characters written : List Char}
      {pieces : List (List Char)} :
      IsEscapeOf character written →
      Writes isPlain characters pieces →
      Writes isPlain (character :: characters) (written :: pieces)

/-- Whether some pieces write some variants, one at least, with bars between them. -/
inductive WritesVariants :
    List String →
    List (List Char) →
    Prop where
  | last
      {variant : String}
      {pieces : List (List Char)} :
      Writes isRawInValue variant.toList pieces →
      WritesVariants [variant] pieces
  | further
      {variant : String}
      {variants : List String}
      {pieces rest : List (List Char)} :
      Writes isRawInValue variant.toList pieces →
      WritesVariants variants rest →
      WritesVariants (variant :: variants) (pieces ++ ['|'] :: rest)

theorem isRaw_of_isRawInKey
    {character : Char}
    (isPlain : isRawInKey character) :
    isRaw character := by
  simp only [isRawInKey, Bool.and_eq_true] at isPlain
  exact isPlain.1.1

theorem isRaw_of_isRawInValue
    {character : Char}
    (isPlain : isRawInValue character) :
    isRaw character := by
  simp only [isRawInValue, Bool.and_eq_true] at isPlain
  exact isPlain.1

theorem isRawInKey_of_isDigitOf
    {value : Nat}
    {digit : Char}
    (isDigit : IsDigitOf value digit) :
    isRawInKey digit := by
  have bounded := lt_of_isDigitOf isDigit
  rcases isDigit with isLower | isUpper
  · interval_cases value <;> cases isLower <;> rfl
  · interval_cases value <;> cases isUpper <;> rfl

theorem isClosed_of_writesUnit
    {unit : Nat}
    {digits : List Char}
    (writes : WritesUnit unit digits) :
    IsClosed isRawInKey digits := by
  cases writes with
  | digits first second third fourth =>
      refine .of_forall ?_
      simp [isRawInKey_of_isDigitOf first, isRawInKey_of_isDigitOf second,
        isRawInKey_of_isDigitOf third, isRawInKey_of_isDigitOf fourth]

/-- An escape is closed, and no separator stands in it that is not escaped. -/
theorem isClosed_of_isEscapeOf
    {character : Char}
    {written : List Char}
    (isEscape : IsEscapeOf character written) :
    IsClosed isRawInKey written := by
  cases isEscape with
  | letter isLetter =>
      simp only [List.mem_cons, Prod.mk.injEq, List.not_mem_nil, or_false] at isLetter
      rcases isLetter with ⟨rfl, rfl⟩ | ⟨rfl, rfl⟩ | ⟨rfl, rfl⟩ | ⟨rfl, rfl⟩
      all_goals exact .escaped (by decide) (by decide) .nil
  | itself noLetter =>
      simp only [List.mem_cons, List.not_mem_nil, or_false, not_or] at noLetter
      obtain ⟨-, -, -, -, -, noReturn, noFeed⟩ := noLetter
      exact .escaped noFeed noReturn .nil
  | unit writes =>
      exact .escaped (by decide) (by decide) (isClosed_of_writesUnit writes)
  | pair _ _ _ _ _ writesHigh writesLow =>
      exact .escaped (by decide) (by decide)
        ((isClosed_of_writesUnit writesHigh).append
          (.escaped (by decide) (by decide) (isClosed_of_writesUnit writesLow)))

namespace Writes

variable
  {isPlain : Char → Bool}
  {characters : List Char}
  {pieces : List (List Char)}

/-- Each piece of a written text is closed. -/
theorem isClosed
    (writes : Writes isPlain characters pieces)
    (impliesRaw : ∀ character, isPlain character → isRaw character) :
    ∀ piece ∈ pieces, IsClosed isRaw piece := by
  induction writes with
  | nil =>
      exact List.forall_mem_nil _
  | raw isPlain _ inductionHypothesis =>
      exact List.forall_mem_cons.mpr
        ⟨.plain (impliesRaw _ isPlain) .nil, inductionHypothesis⟩
  | escape isEscape _ inductionHypothesis =>
      exact List.forall_mem_cons.mpr
        ⟨(isClosed_of_isEscapeOf isEscape).mono fun _ => isRaw_of_isRawInKey,
          inductionHypothesis⟩

/-- A written key holds no separator that is not escaped. -/
theorem isClosed_key
    (writes : Writes isRawInKey characters pieces) :
    IsClosed isRawInKey pieces.flatten := by
  induction writes with
  | nil =>
      exact .nil
  | raw isPlain _ inductionHypothesis =>
      exact .plain isPlain inductionHypothesis
  | escape isEscape _ inductionHypothesis =>
      exact (isClosed_of_isEscapeOf isEscape).append inductionHypothesis

/-- A written key does not start with a blank. -/
theorem starts
    (writes : Writes isRawInKey characters pieces)
    (notEmpty : characters ≠ []) :
    ∃ lead rest, pieces.flatten = lead :: rest ∧ isBlank lead = false := by
  cases writes with
  | nil =>
      exact absurd rfl notEmpty
  | @raw character _ _ isPlain _ =>
      simp only [isRawInKey, Bool.and_eq_true, Bool.not_eq_true'] at isPlain
      exact ⟨character, _, rfl, isPlain.1.2⟩
  | escape isEscape _ =>
      cases isEscape <;> exact ⟨'\\', _, rfl, rfl⟩

/-- A written text is decoded to its characters, and those written plainly were allowed raw. -/
theorem decode
    (writes : Writes isPlain characters pieces)
    (impliesRaw : ∀ character, isPlain character → isRaw character)
    (text : List Char) :
    ∃ glyphs,
      Properties.decode (pieces.flatten ++ text) = (Properties.decode text).map (glyphs ++ ·) ∧
        glyphs.map Glyph.character = characters ∧
        ∀ glyph ∈ glyphs, glyph.plain → isPlain glyph.character := by
  have joined : ∀ (glyph : Glyph) (glyphs : List Glyph) (found : Except EscapeFault (List Glyph)),
      (found.map (glyphs ++ ·)).map (glyph :: ·) = found.map (glyph :: glyphs ++ ·) := by
    intro glyph glyphs found
    cases found <;> rfl
  induction writes with
  | nil =>
      refine ⟨[], ?_, rfl, List.forall_mem_nil _⟩
      rw [List.flatten_nil, List.nil_append]
      cases Properties.decode text <;> rfl
  | @raw character _ _ isPlain _ inductionHypothesis =>
      obtain ⟨glyphs, decoded, same, plain⟩ := inductionHypothesis
      have noBackslash : character ≠ '\\' := by
        rintro rfl
        cases impliesRaw _ isPlain
      refine ⟨⟨character, true⟩ :: glyphs, ?_, by simp [same],
        List.forall_mem_cons.mpr ⟨fun _ => isPlain, plain⟩⟩
      rw [List.flatten_cons, List.append_assoc, List.singleton_append, decode_raw noBackslash,
        decoded, joined]
  | @escape character _ _ _ isEscape _ inductionHypothesis =>
      obtain ⟨glyphs, decoded, same, plain⟩ := inductionHypothesis
      refine ⟨⟨character, false⟩ :: glyphs, ?_, by simp [same],
        List.forall_mem_cons.mpr ⟨by simp, plain⟩⟩
      rw [List.flatten_cons, List.append_assoc, decode_of_isEscapeOf isEscape, decoded, joined]

/-- A written key is decoded to the key. -/
theorem decodeKey
    {key : String}
    (writes : Writes isRawInKey key.toList pieces) :
    Properties.decodeKey pieces.flatten = .ok key := by
  obtain ⟨glyphs, decoded, same, -⟩ := writes.decode (fun _ => isRaw_of_isRawInKey) []
  rw [List.append_nil, Properties.decode] at decoded
  rw [Properties.decodeKey, decoded]
  simp [Except.map, same]

end Writes

namespace WritesVariants

variable
  {variants : List String}
  {pieces : List (List Char)}

theorem isClosed
    (writes : WritesVariants variants pieces) :
    ∀ piece ∈ pieces, IsClosed isRaw piece := by
  induction writes with
  | last writes =>
      exact writes.isClosed fun _ => isRaw_of_isRawInValue
  | further writes _ inductionHypothesis =>
      refine List.forall_mem_append.mpr
        ⟨writes.isClosed fun _ => isRaw_of_isRawInValue, List.forall_mem_cons.mpr ⟨?_, ?_⟩⟩
      · exact .plain rfl .nil
      · exact inductionHypothesis

/-- Decoding keeps apart the bars between the variants, which are plain, and those in them. -/
theorem decode
    (writes : WritesVariants variants pieces) :
    ∃ glyphs,
      Properties.decode pieces.flatten = .ok glyphs ∧
        (glyphs.splitOnP isVariantBar).map
          (fun variant => String.ofList (variant.map Glyph.character)) = variants := by
  have noBar : ∀ glyph : Glyph,
      (glyph.plain → isRawInValue glyph.character) → isVariantBar glyph = false := by
    intro glyph plain
    rw [isVariantBar, Bool.and_eq_false_imp, beq_eq_false_iff_ne]
    rintro isPlain isBar
    have isRaw := plain isPlain
    rw [isBar] at isRaw
    cases isRaw
  induction writes with
  | last writes =>
      obtain ⟨glyphs, decoded, same, plain⟩ := writes.decode (fun _ => isRaw_of_isRawInValue) []
      rw [List.append_nil, Properties.decode] at decoded
      refine ⟨glyphs, by simpa [Except.map] using decoded, ?_⟩
      rw [List.splitOnP_eq_singleton fun glyph isMember => noBar glyph (plain glyph isMember)]
      simp [same]
  | @further _ _ _ rest writes _ inductionHypothesis =>
      obtain ⟨furtherGlyphs, furtherDecoded, furtherSame⟩ := inductionHypothesis
      obtain ⟨glyphs, decoded, same, plain⟩ :=
        writes.decode (fun _ => isRaw_of_isRawInValue) (['|'] :: rest).flatten
      refine ⟨glyphs ++ ⟨'|', true⟩ :: furtherGlyphs, ?_, ?_⟩
      · rw [List.flatten_append, decoded, List.flatten_cons, List.singleton_append,
          decode_raw (by decide), furtherDecoded]
        rfl
      · rw [List.splitOnP_append_cons _ _ rfl,
          List.splitOnP_eq_singleton fun glyph isMember => noBar glyph (plain glyph isMember),
          List.map_append, furtherSame]
        simp [same]

/-- Written variants are decoded to the variants. -/
theorem decodeVariants
    (writes : WritesVariants variants pieces) :
    Properties.decodeVariants pieces.flatten = .ok variants := by
  obtain ⟨glyphs, decoded, same⟩ := writes.decode
  rw [Properties.decodeVariants, decoded, ← same]
  rfl

end WritesVariants

end Phrasebook.Properties
