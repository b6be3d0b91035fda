import Mathlib.Logic.Relation
import Phrasebook.Proofs.Properties.Notation

namespace Phrasebook.Properties

/-!
# Decoding step by step

Decoding goes through a text from escape to escape. Each step leaves the number of backslashes at
the end of the text even or odd as it was, so no backslash dangles at the end if their number is
even. The key and the value of a line that ends in an even number of backslashes are cut out of it
between two steps.
-/

/-! ## Backslashes at the end of a text -/

theorem isContinued_of_forall_ne
    {text : List Char}
    (noBackslash : ∀ character ∈ text, character ≠ '\\') :
    isContinued text = false := by
  induction text with
  | nil =>
      rfl
  | cons character text inductionHypothesis =>
      rw [List.forall_mem_cons] at noBackslash
      rw [isContinued_cons noBackslash.1, inductionHypothesis noBackslash.2]

/-- Without the last of an odd number of backslashes a text ends in an even number of them. -/
theorem isContinued_dropLast
    {text : List Char}
    (odd : isContinued text = true) :
    isContinued text.dropLast = false := by
  have notEmpty : text ≠ [] := by
    rintro rfl
    cases odd
  rw [← List.dropLast_append_getLast notEmpty, isContinued_concat, Bool.and_eq_true,
    Bool.not_eq_true'] at odd
  exact odd.2

/-! ## Steps -/

/-- One step of decoding: what a text starts with is decoded to a glyph, and decoding goes on with
the rest. -/
inductive DecodesOn :
    List Char →
    Glyph →
    List Char →
    Prop where
  | unicode
      {character : Char}
      {text rest : List Char} :
      readUnicode text = .ok (character, rest) →
      DecodesOn ('\\' :: 'u' :: text) ⟨character, false⟩ rest
  | escaped
      {character : Char}
      {text : List Char} :
      character ≠ 'u' →
      DecodesOn ('\\' :: character :: text) ⟨escapedCharacter character, false⟩ text
  | plain
      {character : Char}
      {text : List Char} :
      character ≠ '\\' →
      DecodesOn (character :: text) ⟨character, true⟩ text

theorem decode_unicode_of_error
    {text : List Char}
    {fault : EscapeFault}
    (read : readUnicode text = .error fault) :
    decode ('\\' :: 'u' :: text) = .error fault := by
  rw [decode]
  split
  · rename_i same
    rw [read] at same
    cases same
    rfl
  · rename_i same
    rw [read] at same
    cases same

/-- How decoding starts: there is nothing to decode, or a dangling backslash, or a faulty escape, or
a step is made. -/
inductive DecodingStarts
    (text : List Char) :
    Prop where
  | done :
      text = [] →
      DecodingStarts text
  | dangling :
      text = ['\\'] →
      DecodingStarts text
  | faulty
      {rest : List Char}
      {fault : EscapeFault} :
      text = '\\' :: 'u' :: rest →
      readUnicode rest = .error fault →
      DecodingStarts text
  | step
      {glyph : Glyph}
      {rest : List Char} :
      DecodesOn text glyph rest →
      DecodingStarts text

theorem decodingStarts
    (text : List Char) :
    DecodingStarts text := by
  cases text with
  | nil =>
      exact .done rfl
  | cons first text =>
      by_cases isBackslash : first = '\\'
      · subst isBackslash
        cases text with
        | nil =>
            exact .dangling rfl
        | cons second rest =>
            by_cases isUnicode : second = 'u'
            · subst isUnicode
              cases read : readUnicode rest with
              | error fault =>
                  exact .faulty rfl read
              | ok found =>
                  exact .step (.unicode read)
            · exact .step (.escaped isUnicode)
      · exact .step (.plain isBackslash)

namespace DecodesOn

variable
  {text rest : List Char}
  {glyph : Glyph}

theorem decode_eq
    (step : DecodesOn text glyph rest) :
    decode text = (decode rest).map (glyph :: ·) := by
  cases step with
  | unicode read =>
      exact decode_unicode read
  | escaped noUnicode =>
      exact decode_backslash noUnicode _
  | plain noBackslash =>
      exact decode_raw noBackslash _

theorem length_lt
    (step : DecodesOn text glyph rest) :
    rest.length < text.length := by
  cases step with
  | unicode read =>
      have noLonger : rest.length ≤ _ := length_readUnicode_le read
      simp only [List.length_cons]
      omega
  | escaped _ | plain _ =>
      simp only [List.length_cons]
      omega

end DecodesOn

/-! ## Steps and the end of a text -/

theorem isContinued_of_readHexadecimal
    {value count : Nat}
    {text : List Char}
    {found : Nat × List Char}
    (read : readHexadecimal value count text = .ok found) :
    isContinued found.2 = isContinued text := by
  induction count generalizing value text with
  | zero =>
      cases read
      rfl
  | succ count inductionHypothesis =>
      cases text with
      | nil =>
          cases read
      | cons digit text =>
          rw [readHexadecimal] at read
          split at read
          · cases read
          · rename_i isDigit
            have noBackslash : digit ≠ '\\' := by
              rintro rfl
              cases isDigit
            rw [inductionHypothesis read, isContinued_cons noBackslash]

theorem isContinued_of_readLowSurrogate
    {high : Nat}
    {text : List Char}
    {found : Char × List Char}
    (read : readLowSurrogate high text = .ok found) :
    isContinued found.2 = isContinued text := by
  unfold readLowSurrogate at read
  split at read
  · split at read
    · cases read
    · rename_i digitsRead
      split at read
      · simp only [Except.ok.injEq] at read
        rw [← read, isContinued_escaped]
        exact isContinued_of_readHexadecimal digitsRead
      · cases read
  · cases read

theorem isContinued_of_readUnicode
    {text : List Char}
    {found : Char × List Char}
    (read : readUnicode text = .ok found) :
    isContinued found.2 = isContinued text := by
  unfold readUnicode at read
  split at read
  · cases read
  · rename_i digitsRead
    rw [← isContinued_of_readHexadecimal digitsRead]
    split at read
    · exact isContinued_of_readLowSurrogate read
    · split at read
      · cases read
      · cases read
        rfl

/-- A step takes an even number of the backslashes at the end of a text. -/
theorem DecodesOn.isContinued_eq
    {text rest : List Char}
    {glyph : Glyph}
    (step : DecodesOn text glyph rest) :
    isContinued rest = isContinued text := by
  cases step with
  | unicode read =>
      rw [isContinued_escaped, ← isContinued_of_readUnicode read]
  | escaped _ =>
      rw [isContinued_escaped]
  | plain noBackslash =>
      rw [isContinued_cons noBackslash]

/-- Whether decoding a text comes to what is left of it at some point. -/
def DecodingReaches :
    (text rest : List Char) →
    Prop :=
  Relation.ReflTransGen fun text rest => ∃ glyph, DecodesOn text glyph rest

theorem DecodingReaches.isContinued_eq
    {text rest : List Char}
    (reaches : DecodingReaches text rest) :
    isContinued rest = isContinued text := by
  induction reaches with
  | refl =>
      rfl
  | tail _ further inductionHypothesis =>
      obtain ⟨glyph, step⟩ := further
      rw [step.isContinued_eq, inductionHypothesis]

/-- Decoding comes to a dangling backslash only in a text that ends in an odd number of them. -/
theorem not_decodingReaches_dangling
    {text : List Char}
    (even : isContinued text = false) :
    ¬DecodingReaches text ['\\'] := by
  intro reaches
  have odd : isContinued ['\\'] = true := rfl
  rw [reaches.isContinued_eq, even] at odd
  cases odd

/-! ## Steps before a separator -/

/-- Whether a character may stand between a key and its value. -/
def isSeparator
    (character : Char) :
    Bool :=
  isBlank character || isEquals character

/-- Whether a text is empty or starts with a separator. -/
def StartsApart
    (text : List Char) :
    Prop :=
  Text.LacksLead (!isSeparator ·) text

theorem isSeparator_of_startsApart
    {character : Char}
    {text : List Char}
    (apart : StartsApart (character :: text)) :
    isSeparator character = true := by
  have lacks := apart character text rfl
  simpa using lacks

theorem separator_cases
    {character : Char}
    (separates : isSeparator character = true) :
    character ∈ [' ', '\t', '\x0c', '=', ':'] := by
  simp only [isSeparator, isBlank, isEquals, Bool.or_eq_true, beq_iff_eq] at separates
  simp only [List.mem_cons, List.not_mem_nil, or_false]
  tauto

theorem ne_backslash_of_isSeparator
    {character : Char}
    (separates : isSeparator character = true) :
    character ≠ '\\' := by
  rintro rfl
  cases separates

theorem hexadecimalValue?_of_isSeparator
    {character : Char}
    (separates : isSeparator character = true) :
    hexadecimalValue? character = none := by
  have cases := separator_cases separates
  simp only [List.mem_cons, List.not_mem_nil, or_false] at cases
  rcases cases with rfl | rfl | rfl | rfl | rfl <;> rfl

section

variable {second : List Char}

theorem readHexadecimal_append
    (apart : StartsApart second)
    (value count : Nat)
    (first : List Char) :
    readHexadecimal value count (first ++ second) =
      (readHexadecimal value count first).map fun found => (found.1, found.2 ++ second) := by
  induction count generalizing value first with
  | zero =>
      rfl
  | succ count inductionHypothesis =>
      cases first with
      | nil =>
          cases second with
          | nil =>
              rfl
          | cons character rest =>
              have noDigit :=
                hexadecimalValue?_of_isSeparator (isSeparator_of_startsApart apart)
              simp only [List.nil_append, readHexadecimal, noDigit]
              rfl
      | cons digit first =>
          rw [List.cons_append, readHexadecimal, readHexadecimal]
          cases hexadecimalValue? digit with
          | none =>
              rfl
          | some known =>
              exact inductionHypothesis _ first

/-- A separator after a text does not complete the start of an escape. -/
theorem ne_escape_of_startsApart
    (apart : StartsApart second)
    {first : List Char}
    (noEscape : ∀ rest, first ≠ '\\' :: 'u' :: rest)
    (rest : List Char) :
    first ++ second ≠ '\\' :: 'u' :: rest := by
  intro same
  match first with
  | [] =>
      rw [List.nil_append] at same
      cases isSeparator_of_startsApart (same ▸ apart)
  | [only] =>
      rw [List.singleton_append, List.cons.injEq] at same
      cases isSeparator_of_startsApart (same.2 ▸ apart)
  | _ :: _ :: further =>
      simp only [List.cons_append, List.cons.injEq] at same
      obtain ⟨rfl, rfl, _⟩ := same
      exact noEscape further rfl

theorem readLowSurrogate_of_ne
    {text : List Char}
    (noEscape : ∀ rest, text ≠ '\\' :: 'u' :: rest)
    (high : Nat) :
    readLowSurrogate high text = .error (.unpaired high) := by
  unfold readLowSurrogate
  split
  · exact absurd rfl (noEscape _)
  · rfl

theorem readLowSurrogate_append
    (apart : StartsApart second)
    (high : Nat)
    (first : List Char) :
    readLowSurrogate high (first ++ second) =
      (readLowSurrogate high first).map fun found => (found.1, found.2 ++ second) := by
  by_cases isEscape : ∃ rest, first = '\\' :: 'u' :: rest
  · obtain ⟨rest, rfl⟩ := isEscape
    simp only [List.cons_append, readLowSurrogate, readUnit, readHexadecimal_append apart]
    cases readHexadecimal 0 4 rest with
    | error fault =>
        rfl
    | ok found =>
        simp only [Except.map]
        split <;> simp only
  · have noEscape := not_exists.mp isEscape
    rw [readLowSurrogate_of_ne noEscape,
      readLowSurrogate_of_ne (ne_escape_of_startsApart apart noEscape)]
    rfl

theorem readUnicode_append
    (apart : StartsApart second)
    (first : List Char) :
    readUnicode (first ++ second) =
      (readUnicode first).map fun found => (found.1, found.2 ++ second) := by
  rw [readUnicode, readUnit, readHexadecimal_append apart, readUnicode, readUnit]
  cases readHexadecimal 0 4 first with
  | error fault =>
      rfl
  | ok found =>
      obtain ⟨unit, rest⟩ := found
      simp only [Except.map]
      split
      · exact readLowSurrogate_append apart unit rest
      · split <;> rfl

/-- A step before a separator is the same whatever follows the separator. -/
theorem DecodesOn.append
    (apart : StartsApart second)
    {first rest : List Char}
    {glyph : Glyph}
    (step : DecodesOn first glyph rest) :
    DecodesOn (first ++ second) glyph (rest ++ second) := by
  cases step with
  | @unicode character text _ read =>
      have further : readUnicode (text ++ second) = .ok (character, rest ++ second) := by
        rw [readUnicode_append apart, read]
        rfl
      exact .unicode further
  | escaped noUnicode =>
      exact .escaped noUnicode
  | plain noBackslash =>
      exact .plain noBackslash

/-- A text without a dangling backslash is decoded by itself if a separator follows it. -/
theorem decode_append
    (apart : StartsApart second)
    {first : List Char}
    (even : isContinued first = false) :
    decode (first ++ second) =
      (decode first).bind fun glyphs => (decode second).map (glyphs ++ ·) := by
  -- A step may take several characters, so the induction is on how many are left.
  induction count : first.length using Nat.strongRecOn generalizing first with
  | ind count inductionHypothesis =>
      cases decodingStarts first with
      | done isEmpty =>
          subst isEmpty
          rw [List.nil_append, decode]
          cases decode second <;> rfl
      | dangling isBackslash =>
          subst isBackslash
          cases even
      | @faulty rest fault shape read =>
          subst shape
          have further : readUnicode (rest ++ second) = .error fault := by
            rw [readUnicode_append apart, read]
            rfl
          rw [List.cons_append, List.cons_append, decode_unicode_of_error further,
            decode_unicode_of_error read]
          rfl
      | step step =>
          have shorter := step.length_lt
          rw [(step.append apart).decode_eq, step.decode_eq,
            inductionHypothesis _ (by omega) (step.isContinued_eq.trans even) rfl]
          cases decode _ with
          | error fault =>
              rfl
          | ok glyphs =>
              cases decode second <;> rfl

end

/-! ## Cutting a line -/

theorem decode_plain_append
    {plain : List Char}
    (noBackslash : ∀ character ∈ plain, character ≠ '\\')
    (text : List Char) :
    decode (plain ++ text) = (decode text).map (plain.map (⟨·, true⟩) ++ ·) := by
  induction plain with
  | nil =>
      rw [List.nil_append]
      cases decode text <;> rfl
  | cons character plain inductionHypothesis =>
      rw [List.forall_mem_cons] at noBackslash
      rw [List.cons_append, decode_raw noBackslash.1, inductionHypothesis noBackslash.2]
      cases decode text <;> rfl

/-- A line is cut where no backslash escapes what follows, or not at all. -/
theorem splitKey_append_eq
    {front : List Char}
    {escaping : Bool}
    (state : isContinued front = escaping)
    (line : List Char) :
    (splitKey escaping line).1 ++ (splitKey escaping line).2 = line ∧
      StartsApart (splitKey escaping line).2 ∧
      ((splitKey escaping line).2 ≠ [] →
        isContinued (front ++ (splitKey escaping line).1) = false) := by
  induction line generalizing front escaping with
  | nil =>
      refine ⟨rfl, ?_, fun notEmpty => absurd rfl notEmpty⟩
      rintro _ _ ⟨⟩
  | cons character line inductionHypothesis =>
      rw [splitKey]
      split
      · rename_i separates
        simp only [Bool.and_eq_true, Bool.not_eq_true'] at separates
        obtain ⟨unescaped, isSeparator⟩ := separates
        refine ⟨rfl, ?_, fun _ => ?_⟩
        · refine Text.lacksLead_cons ?_ line
          rw [Properties.isSeparator, Bool.or_comm, isSeparator]
          rfl
        · rw [List.append_nil, state, unescaped]
      · have further : isContinued (front ++ [character]) = (character == '\\' && !escaping) := by
          rw [isContinued_concat, state]
        obtain ⟨same, apart, closed⟩ := inductionHypothesis further
        refine ⟨by simp [same], apart, fun notEmpty => ?_⟩
        rw [List.append_cons]
        exact closed notEmpty

/-- What is dropped at the front of a text, if it consists of separators. -/
def DropsSeparators
    (text rest : List Char) :
    Prop :=
  ∃ separators, text = separators ++ rest ∧ ∀ character ∈ separators, isSeparator character = true

theorem DropsSeparators.trans
    {first second third : List Char}
    (drops : DropsSeparators first second)
    (dropsFurther : DropsSeparators second third) :
    DropsSeparators first third := by
  obtain ⟨separators, rfl, all⟩ := drops
  obtain ⟨further, rfl, furtherAll⟩ := dropsFurther
  exact ⟨separators ++ further, (List.append_assoc ..).symm,
    List.forall_mem_append.mpr ⟨all, furtherAll⟩⟩

theorem dropsSeparators_dropBlanks
    (text : List Char) :
    DropsSeparators text (dropBlanks text) := by
  refine ⟨text.takeWhile isBlank, List.takeWhile_append_dropWhile.symm,
    fun character isMember => ?_⟩
  rw [isSeparator, List.mem_takeWhile_imp isMember]
  rfl

theorem dropsSeparators_dropEquals
    (text : List Char) :
    DropsSeparators text (dropEquals text) := by
  cases text with
  | nil =>
      exact ⟨[], rfl, List.forall_mem_nil _⟩
  | cons character text =>
      rw [dropEquals]
      split
      · rename_i separates
        exact ⟨[character], rfl, by simp [isSeparator, separates]⟩
      · exact ⟨[], rfl, List.forall_mem_nil _⟩

/-- Nothing but separators stands between a key and its value. -/
theorem dropsSeparators_valueAfterKey
    {text : List Char}
    (apart : StartsApart text) :
    DropsSeparators text (valueAfterKey text) := by
  cases text with
  | nil =>
      exact ⟨[], rfl, List.forall_mem_nil _⟩
  | cons separator text =>
      have dropsFirst : DropsSeparators (separator :: text) text :=
        ⟨[separator], rfl, by simp [isSeparator_of_startsApart apart]⟩
      rw [valueAfterKey]
      split
      · exact dropsFirst.trans (dropsSeparators_dropBlanks text)
      · exact dropsFirst.trans ((dropsSeparators_dropBlanks text).trans
          ((dropsSeparators_dropEquals _).trans (dropsSeparators_dropBlanks _)))

/-- Whether a line is cut into its key and its value between two escapes: nothing but separators is
left out between them, neither dangles, and to decode the line is to decode its parts. -/
structure IsCutBetweenEscapes
    (line key value : List Char) :
    Prop where
  keyComplete : ¬DecodingReaches key ['\\']
  valueComplete : ¬DecodingReaches value ['\\']
  parts :
    ∃ separators,
      line = key ++ (separators ++ value) ∧
        (∀ character ∈ separators, isSeparator character = true) ∧
        decode line =
          (decode key).bind fun keyGlyphs =>
            (decode value).map fun valueGlyphs =>
              keyGlyphs ++ (separators.map (⟨·, true⟩) ++ valueGlyphs)

/-- A line that ends in an even number of backslashes is cut between two escapes. -/
theorem isCutBetweenEscapes_keyAndValue
    {line : List Char}
    (even : isContinued line = false) :
    IsCutBetweenEscapes line (keyAndValue line).1 (keyAndValue line).2 := by
  have start : isContinued [] = false := rfl
  obtain ⟨same, apart, closed⟩ := splitKey_append_eq start line
  rw [keyAndValue]
  simp only
  generalize splitKey false line = cut at same apart closed
  obtain ⟨key, rest⟩ := cut
  simp only [List.nil_append] at same apart closed ⊢
  have keyEven : isContinued key = false := by
    by_cases isEmpty : rest = []
    · rw [isEmpty, List.append_nil] at same
      rw [same, even]
    · exact closed isEmpty
  obtain ⟨separators, shape, all⟩ := dropsSeparators_valueAfterKey apart
  have noBackslash : ∀ character ∈ separators, character ≠ '\\' := fun character isMember =>
    ne_backslash_of_isSeparator (all character isMember)
  have valueEven : isContinued (valueAfterKey rest) = false := by
    rw [← isContinued_append_right (isContinued_of_forall_ne noBackslash), ← shape,
      ← isContinued_append_right keyEven, same, even]
  refine ⟨not_decodingReaches_dangling keyEven, not_decodingReaches_dangling valueEven,
    separators, by rw [← shape, same], all, ?_⟩
  rw [← same, decode_append apart keyEven]
  conv_lhs => rw [shape]
  rw [decode_plain_append noBackslash]
  cases decode key with
  | error fault =>
      rfl
  | ok keyGlyphs =>
      cases decode (valueAfterKey rest) <;> rfl

end Phrasebook.Properties
