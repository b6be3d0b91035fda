import Phrasebook.Code.Accessor
import Phrasebook.Proofs.Identifier
import Phrasebook.Proofs.Validation.Locales

namespace Phrasebook

open Identifier LanguageTag

/-!
# Generated names of locales

The tag of a locale whose characters are ASCII makes a name in camel case for its variant, and
from that a name in snake case for its plural function. Both are identifiers, and locales that
differ in the former differ in the latter.
-/

/-! ## Subtags -/

/-- A tag of ASCII letters and digits, hyphens and underscores. -/
def IsPlainTag
    (tag : String) :
    Prop :=
  ∀ character ∈ tag.toList,
    isAlphanumeric character ∨ character = '-' ∨ character = '_'

instance
    (tag : String) :
    Decidable (IsPlainTag tag) :=
  List.decidableBAll
    (fun character => isAlphanumeric character ∨ character = '-' ∨ character = '_') tag.toList

theorem two_le_length_of_isVariant
    {subtag : List Char}
    (isVariant : LanguageTag.isVariant subtag) :
    2 ≤ subtag.length := by
  unfold LanguageTag.isVariant at isVariant
  split at isVariant
  · simp
  · simp only [Bool.and_eq_true, decide_eq_true_eq] at isVariant
    omega

theorem two_le_length_of_isRegion
    {subtag : List Char}
    (isRegion : LanguageTag.isRegion subtag) :
    2 ≤ subtag.length := by
  simp only [LanguageTag.isRegion, Bool.or_eq_true, Bool.and_eq_true, beq_iff_eq] at isRegion
  omega

/-- Every subtag after the language could be a script, a region or a variant. -/
theorem cases_of_followsWell
    {progress : Progress}
    {subtags : List (List Char)}
    (valid : followsWell progress subtags) :
    ∀ subtag ∈ subtags, isScript subtag ∨ isRegion subtag ∨ isVariant subtag := by
  induction subtags generalizing progress with
  | nil =>
      simp
  | cons subtag subtags inductionHypothesis =>
      cases progress with
      | language =>
          rw [followsWell] at valid
          split at valid
          · rename_i isScript
            exact List.forall_mem_cons.mpr ⟨.inl isScript, inductionHypothesis valid⟩
          · split at valid
            · rename_i regionOrVariant
              exact List.forall_mem_cons.mpr
                ⟨.inr (Bool.or_eq_true_iff.mp regionOrVariant), inductionHypothesis valid⟩
            · cases valid
      | script =>
          rw [followsWell, Bool.and_eq_true, Bool.or_eq_true] at valid
          exact List.forall_mem_cons.mpr ⟨.inr valid.1, inductionHypothesis valid.2⟩
      | regionOrVariant =>
          rw [followsWell, Bool.and_eq_true] at valid
          exact List.forall_mem_cons.mpr ⟨.inr (.inr valid.1), inductionHypothesis valid.2⟩

/-- Every subtag after the language has at least two characters. -/
theorem two_le_length_of_followsWell
    {progress : Progress}
    {subtags : List (List Char)}
    (valid : followsWell progress subtags) :
    ∀ subtag ∈ subtags, 2 ≤ subtag.length := by
  intro subtag member
  rcases cases_of_followsWell valid subtag member with isScript | isRegion | isVariant
  · simp only [LanguageTag.isScript, Bool.and_eq_true, beq_iff_eq] at isScript
    omega
  · exact two_le_length_of_isRegion isRegion
  · exact two_le_length_of_isVariant isVariant

/-- The segments of a well-formed tag: a language, which has two or three or more than four
letters, and further segments. -/
structure IsTagSegments
    (language : List Char)
    (further : List (List Char)) :
    Prop where
  languageSegment : IsSegment language
  letters : language.all Char.isAlpha
  notFour : language.length ≠ 4
  furtherSegments : ∀ segment ∈ further, IsSegment segment

theorem segments_of_isValid
    {tag : String}
    (plain : IsPlainTag tag)
    (valid : isValid tag.toList) :
    ∃ language further,
      segments tag.toList = language :: further ∧ IsTagSegments language further := by
  unfold isValid at valid
  split at valid
  · cases valid
  rename_i language further split
  rw [Bool.and_eq_true] at valid
  obtain ⟨isLanguage, follows⟩ := valid
  simp only [LanguageTag.isLanguage, Bool.and_eq_true, decide_eq_true_eq, bne_iff_ne]
    at isLanguage
  obtain ⟨⟨⟨twoLong, _⟩, notFour⟩, letters⟩ := isLanguage
  have lengths : ∀ subtag ∈ language :: further, 2 ≤ subtag.length :=
    List.forall_mem_cons.mpr ⟨twoLong, two_le_length_of_followsWell follows⟩
  have areSegments : ∀ subtag ∈ language :: further, IsSegment subtag := by
    intro subtag member
    refine ⟨List.all_eq_true.mpr fun character inside => ?_, lengths subtag member⟩
    rw [← split] at member
    obtain ⟨inTag, apart⟩ := mem_of_mem_splitOnP member inside
    rcases plain character inTag with alphanumeric | rfl | rfl
    · exact alphanumeric
    · cases apart
    · cases apart
  have sameSplit :
      tag.toList.splitOnP (fun character =>
          character == '.' || character == '_' || character == '-') =
        language :: further := by
    rw [← split]
    refine splitOnP_congr fun character inTag => ?_
    rcases plain character inTag with alphanumeric | rfl | rfl
    · have noDot : (character == '.') = false := by
        refine beq_false_of_ne ?_
        rintro rfl
        exact absurd alphanumeric (by decide)
      rw [noDot, Bool.false_or, Bool.or_comm]
    · rfl
    · rfl
  have kept :
      (language :: further).filter (!·.isEmpty) = language :: further := by
    refine List.filter_eq_self.mpr fun subtag member => ?_
    have long := lengths subtag member
    cases subtag with
    | nil =>
        cases long
    | cons lead rest =>
        rfl
  refine ⟨language, further, ?_, ?_⟩
  · rw [segments, sameSplit, kept]
  · rw [List.forall_mem_cons] at areSegments
    exact ⟨areSegments.1, letters, notFour, areSegments.2⟩

/-- A segment after the language does not go on with small letters. -/
theorem head_segments
    {segments : List (List Char)}
    {character : Char}
    {rest : List Char}
    (ascii :
      ∀ segment ∈ segments, segment ≠ [] ∧ ∀ character ∈ segment, character.toNat < 0x80)
    (shape :
      (segments.flatMap fun segment => capitalized (Text.lowercaseText segment)) =
        character :: rest) :
    character.isLower = false := by
  cases segments with
  | nil =>
      cases shape
  | cons segment segments =>
      obtain ⟨nonempty, segmentAscii⟩ := ascii segment List.mem_cons_self
      cases segment with
      | nil =>
          exact absurd rfl nonempty
      | cons lead further =>
          rw [List.flatMap_cons, capitalized_of_ascii segmentAscii, List.cons_append] at shape
          have noSmallLetter :=
            Text.of_ascii
              (fun character => !character.toLower.toUpper.isLower)
              (by decide +kernel) (List.forall_mem_cons.mp segmentAscii).1
          cases shape
          simpa only [Bool.not_eq_true'] using noSmallLetter

namespace Locale

theorem toList_variantName
    {locale : Locale}
    (notRoot : locale.isRoot = false) :
    locale.variantName.toList = upperCamelCase locale.tag.toList := by
  simp [variantName, notRoot]

/-- The language is too short or too long for `Self`, and what follows it is no small letter. -/
theorem variantName_ne_self
    {locale : Locale}
    {language : List Char}
    {further : List (List Char)}
    (notRoot : locale.isRoot = false)
    (shape : segments locale.tag.toList = language :: further)
    (ascii :
      ∀ segment ∈ language :: further,
        segment ≠ [] ∧ ∀ character ∈ segment, character.toNat < 0x80)
    (twoLong : 2 ≤ language.length)
    (notFour : language.length ≠ 4) :
    locale.variantName ≠ "Self" := by
  intro isSelf
  have name := toList_variantName notRoot
  rw [List.forall_mem_cons] at ascii
  match language with
  | [] =>
      cases twoLong
  | lead :: rest =>
      rw [isSelf, upperCamelCase, shape, List.flatMap_cons, capitalized_of_ascii ascii.1.2] at name
      match rest, name with
      | [], _ =>
          simp at twoLong
      | [second], name =>
          have after : _ = _ := (List.cons.inj (List.cons.inj name).2).2
          exact absurd (head_segments ascii.2 after.symm) (by decide)
      | [second, third], name =>
          have after : _ = _ := (List.cons.inj (List.cons.inj (List.cons.inj name).2).2).2
          exact absurd (head_segments ascii.2 after.symm) (by decide)
      | [second, third, fourth], _ =>
          exact notFour rfl
      | second :: third :: fourth :: fifth :: rest, name =>
          have lengths := congrArg List.length name
          simp at lengths

/-- What a well-formed locale with a plain tag is called in generated code. -/
structure IsNamed
    (locale : Locale) :
    Prop where
  camel : IsUpperCamel locale.variantName.toList
  noSelf : locale.variantName ≠ "Self"

theorem isNamed_of_segments
    {locale : Locale}
    {language : List Char}
    {further : List (List Char)}
    (notRoot : locale.isRoot = false)
    (shape : segments locale.tag.toList = language :: further)
    (areSegments : IsTagSegments language further) :
    locale.IsNamed := by
  obtain ⟨isSegment, letters, notFour, furtherSegments⟩ := areSegments
  have ascii :
      ∀ segment ∈ language :: further,
        segment ≠ [] ∧ ∀ character ∈ segment, character.toNat < 0x80 :=
    List.forall_mem_cons.mpr
      ⟨isSegment.ascii, fun segment member => (furtherSegments segment member).ascii⟩
  refine ⟨?_, variantName_ne_self notRoot shape ascii isSegment.twoLong notFour⟩
  rw [toList_variantName notRoot, upperCamelCase, shape]
  cases language with
  | nil =>
      exact absurd isSegment.twoLong (by decide)
  | cons lead rest =>
      rw [List.all_cons, Bool.and_eq_true] at letters
      exact isUpperCamel_segments letters.1 isSegment furtherSegments

/-- A locale that passes its checks is named, if its tag is plain. -/
theorem isNamed_of_isValid
    {locale : Locale}
    (plain : IsPlainTag locale.tag)
    (valid : locale.isRoot ∨ isValid locale.tag.toList) :
    locale.IsNamed := by
  by_cases isRoot : locale.isRoot
  · have name : locale.variantName = "Root" := by
      rw [variantName, if_pos isRoot]
    refine ⟨?_, ?_⟩
    · rw [name]
      exact .intro 'R' ['o', 'o', 't'] (by decide) (by decide)
    · rw [name]
      decide
  · have notRoot : locale.isRoot = false := by simpa using isRoot
    have isTag : isValid locale.tag.toList := by simpa [notRoot] using valid
    obtain ⟨language, further, shape, areSegments⟩ := segments_of_isValid plain isTag
    exact isNamed_of_segments notRoot shape areSegments

theorem functionSuffix_eq_snakeCase
    (locale : Locale) :
    locale.functionSuffix = String.ofList (snakeCase locale.variantName.toList) := by
  unfold functionSuffix
  split
  · rename_i isRoot
    rw [variantName, if_pos isRoot]
    decide +kernel
  · rfl

theorem IsNamed.isLegal_variantName
    {locale : Locale}
    (named : locale.IsNamed) :
    isLegal locale.variantName :=
  named.camel.isLegal named.noSelf

theorem toList_pluralFunction
    (locale : Locale) :
    (Code.pluralFunction locale).toList =
      "plural_form_".toList ++ snakeCase locale.variantName.toList := by
  simp [Code.pluralFunction, functionSuffix_eq_snakeCase]

/-- The plural function of a locale tells the name of its variant. -/
theorem variantName_of_pluralFunction
    {first second : Locale}
    (firstNamed : first.IsNamed)
    (secondNamed : second.IsNamed)
    (same : Code.pluralFunction first = Code.pluralFunction second) :
    first.variantName = second.variantName := by
  have letters := congrArg String.toList same
  rw [toList_pluralFunction, toList_pluralFunction, List.append_cancel_left_eq] at letters
  exact String.toList_inj.mp (snakeCase_injective firstNamed.camel secondNamed.camel letters)

/-- The plural function of a locale whose variant is named with parts of names has a legal name. -/
theorem isLegal_pluralFunction
    {locale : Locale}
    (variantParts : locale.variantName.toList.all isPart) :
    isLegal (Code.pluralFunction locale) := by
  have parts := isPart_of_mem_snakeCase variantParts
  have letters := toList_pluralFunction locale
  have shape : isName (Code.pluralFunction locale).toList := by
    have start : "plural_form_".toList = 'p' :: "lural_form_".toList := by decide
    have startParts : "lural_form_".toList.all isPart := by decide
    rw [letters, start, List.cons_append, isName, List.all_append, startParts, parts]
    decide
  have noWord : ∀ word ∈ "_" :: reservedWords, ¬"plural_form_".toList <+: word.toList := by
    decide
  have starts : "plural_form_".toList <+: (Code.pluralFunction locale).toList := by
    rw [letters]
    exact List.prefix_append _ _
  have noUnderscore : Code.pluralFunction locale ≠ "_" := by
    intro same
    exact noWord "_" List.mem_cons_self (same ▸ starts)
  have notReserved : Code.pluralFunction locale ∉ reservedWords := by
    intro member
    exact noWord _ (List.mem_cons_of_mem _ member) starts
  simp [isLegal, shape, noUnderscore, notReserved]

theorem IsNamed.isLegal_pluralFunction
    {locale : Locale}
    (named : locale.IsNamed) :
    isLegal (Code.pluralFunction locale) :=
  Locale.isLegal_pluralFunction (isPart_of_isLegal named.isLegal_variantName).2

end Locale

end Phrasebook
