import Phrasebook.Proofs.Locale
import Phrasebook.Proofs.Validation.Bundle

namespace Phrasebook

open Identifier LanguageTag

/-!
# The names of checked locales

A variant of four characters need not consist of letters and digits, so a well-formed tag can hold
what no name can hold. The names that generated code gives to a checked locale are legal just if
its tag holds nothing but letters, digits and separators. If no tag holds anything else, and no
dots either, then checked locales differ in their names and in their tags, whatever the case of
the letters and the choice of the separators.
-/

/-! ## The characters of tags -/

/-- Whether all characters of a tag can stand in a name or between the segments of a name. -/
def IsNameableTag
    (tag : String) :
    Prop :=
  ∀ character ∈ tag.toList, isAlphanumeric character ∨ IsSeparator character

theorem ascii_of_isVariant
    {subtag : List Char}
    (isVariant : LanguageTag.isVariant subtag) :
    ∀ character ∈ subtag, character.toNat < 0x80 := by
  unfold LanguageTag.isVariant at isVariant
  split at isVariant
  · intro character member
    rw [Bool.and_eq_true] at isVariant
    exact of_decide_eq_true (List.all_eq_true.mp isVariant.1 character member)
  · rw [Bool.and_eq_true] at isVariant
    exact Text.ascii_of_all_isAlphanumeric isVariant.2

theorem ascii_of_followsWell
    {progress : Progress}
    {subtags : List (List Char)}
    (valid : followsWell progress subtags) :
    ∀ subtag ∈ subtags, ∀ character ∈ subtag, character.toNat < 0x80 := by
  intro subtag member character inSubtag
  rcases cases_of_followsWell valid subtag member with isScript | isRegion | isVariant
  · rw [LanguageTag.isScript, Bool.and_eq_true] at isScript
    exact Text.ascii_of_isAlphanumeric
      (Text.isAlphanumeric_of_isAlpha (List.all_eq_true.mp isScript.2 character inSubtag))
  · rw [LanguageTag.isRegion, Bool.or_eq_true, Bool.and_eq_true, Bool.and_eq_true] at isRegion
    rcases isRegion with ⟨_, letters⟩ | ⟨_, digits⟩
    · exact Text.ascii_of_isAlphanumeric
        (Text.isAlphanumeric_of_isAlpha (List.all_eq_true.mp letters character inSubtag))
    · exact Text.ascii_of_isAlphanumeric
        (Text.isAlphanumeric_of_isDigit (List.all_eq_true.mp digits character inSubtag))
  · exact ascii_of_isVariant isVariant character inSubtag

/-- A well-formed tag is ASCII. -/
theorem ascii_of_isValid
    {tag : List Char}
    (valid : isValid tag) :
    ∀ character ∈ tag, character.toNat < 0x80 := by
  unfold isValid at valid
  split at valid
  · cases valid
  rename_i language further split
  simp only [isLanguage, Bool.and_eq_true] at valid
  intro character inTag
  cases separates : (character == '-' || character == '_') with
  | true =>
      rcases Bool.or_eq_true_iff.mp separates with same | same
      · rw [beq_iff_eq.mp same]
        decide
      · rw [beq_iff_eq.mp same]
        decide
  | false =>
      obtain ⟨subtag, isSubtag, inSubtag⟩ : ∃ subtag ∈ subtags tag, character ∈ subtag :=
        exists_mem_splitOnP inTag separates
      rw [split] at isSubtag
      rcases List.mem_cons.mp isSubtag with rfl | later
      · exact Text.ascii_of_isAlphanumeric
          (Text.isAlphanumeric_of_isAlpha (List.all_eq_true.mp valid.1.2 character inSubtag))
      · exact ascii_of_followsWell valid.2 subtag later character inSubtag

/-- The first segment of a well-formed tag is its language. -/
theorem segments_eq_cons_of_isValid
    {tag : List Char}
    (valid : isValid tag) :
    ∃ language others, segments tag = language :: others ∧ isLanguage language := by
  unfold isValid at valid
  split at valid
  · cases valid
  rename_i language further split
  rw [Bool.and_eq_true] at valid
  have isLanguage := valid.1
  simp only [LanguageTag.isLanguage, Bool.and_eq_true, decide_eq_true_eq] at isLanguage
  have nonempty : language ≠ [] := by
    rintro rfl
    exact absurd isLanguage.1.1.1 (by decide)
  -- A tag is not split at dots, at which segments end, but a language has none.
  have oneSegment : segments language = [language] :=
    segments_of_noSeparator nonempty fun character member =>
      noSeparator_of_isAlphanumeric
        (Text.isAlphanumeric_of_isAlpha (List.all_eq_true.mp isLanguage.2 character member))
  rcases of_splitOnP_eq_cons split with rfl | ⟨separator, rest, separates, rfl⟩
  · exact ⟨tag, [], oneSegment, valid.1⟩
  · have isSeparator : IsSeparator separator := by
      simp only [Bool.or_eq_true, beq_iff_eq] at separates
      exact .inr separates.symm
    refine ⟨language, segments rest, ?_, valid.1⟩
    rw [segments_append_separator isSeparator, oneSegment]
    rfl

/-! ## The characters of names -/

/-- Whether a character comes from another one by a change of case. -/
def IsRecased
    (character recased : Char) :
    Prop :=
  recased = character.toLower ∨ recased = character.toLower.toUpper

/-- A change of case leaves letters and digits, separators, and all other ASCII characters what they
are. -/
theorem IsRecased.of_ascii
    {character recased : Char}
    (isRecased : IsRecased character recased)
    (ascii : character.toNat < 0x80) :
    recased.toNat < 0x80 ∧
      (isAlphanumeric recased ↔ isAlphanumeric character) ∧
      (IsSeparator recased ↔ IsSeparator character) := by
  let keeps (recase : Char → Char) (character : Char) : Bool :=
    decide
      ((recase character).toNat < 0x80 ∧
        (isAlphanumeric (recase character) ↔ isAlphanumeric character) ∧
        (IsSeparator (recase character) ↔ IsSeparator character))
  rcases isRecased with rfl | rfl
  · exact of_decide_eq_true (Text.of_ascii (keeps Char.toLower) (by decide +kernel) ascii)
  · exact of_decide_eq_true
      (Text.of_ascii (keeps fun character => character.toLower.toUpper) (by decide +kernel) ascii)

theorem forall₂_capitalized
    {segment : List Char}
    (ascii : ∀ character ∈ segment, character.toNat < 0x80) :
    List.Forall₂ IsRecased segment (capitalized (Text.lowercaseText segment)) := by
  cases segment with
  | nil =>
      exact .nil
  | cons lead rest =>
      rw [capitalized_of_ascii ascii]
      exact .cons (.inr rfl)
        (List.forall₂_map_right_iff.mpr (List.forall₂_same.mpr fun character _ => .inl rfl))

/-- A name in camel case holds the characters of the segments one by one. -/
theorem forall₂_upperCamelCase
    {text : List Char}
    (ascii : ∀ character ∈ text, character.toNat < 0x80) :
    List.Forall₂ IsRecased (segments text).flatten (upperCamelCase text) := by
  rw [upperCamelCase, List.flatMap_def]
  refine List.rel_flatten (List.forall₂_map_right_iff.mpr ?_)
  refine List.forall₂_same.mpr fun segment isSegment => forall₂_capitalized ?_
  exact fun character inSegment => ascii character ((of_mem_segments isSegment).2 _ inSegment).1

theorem isAlphanumeric_of_isPart
    {character : Char}
    (isPart : isPart character)
    (noSeparator : ¬IsSeparator character) :
    isAlphanumeric character := by
  rcases Bool.or_eq_true_iff.mp isPart with alphanumeric | underscore
  · exact alphanumeric
  · exact absurd (.inr (.inl (beq_iff_eq.mp underscore))) noSeparator

theorem of_mem_flatten_segments
    {text : List Char}
    {character : Char}
    (member : character ∈ (segments text).flatten) :
    character ∈ text ∧ ¬IsSeparator character := by
  obtain ⟨segment, isSegment, inSegment⟩ := List.mem_flatten.mp member
  exact (of_mem_segments isSegment).2 character inSegment

/-- Camel case makes parts of names of letters and digits only. -/
theorem isPart_upperCamelCase_iff
    {text : List Char}
    (ascii : ∀ character ∈ text, character.toNat < 0x80) :
    (upperCamelCase text).all isPart ↔
      ∀ character ∈ text, isAlphanumeric character ∨ IsSeparator character := by
  have recased := forall₂_upperCamelCase ascii
  rw [List.all_eq_true]
  constructor
  · intro parts character inText
    by_cases isSeparator : IsSeparator character
    · exact .inr isSeparator
    · obtain ⟨segment, isSegment, inSegment⟩ := exists_mem_segments inText isSeparator
      obtain ⟨part, inName, isRecased⟩ :=
        exists_related_of_mem recased (List.mem_flatten.mpr ⟨segment, isSegment, inSegment⟩)
      obtain ⟨_, alphanumeric, separator⟩ := isRecased.of_ascii (ascii character inText)
      exact .inl (alphanumeric.mp
        (isAlphanumeric_of_isPart (parts part inName) (mt separator.mp isSeparator)))
  · intro nameable part inName
    obtain ⟨character, inSegments, isRecased⟩ := exists_related_to_mem recased inName
    obtain ⟨inText, noSeparator⟩ := of_mem_flatten_segments inSegments
    obtain ⟨_, alphanumeric, _⟩ := isRecased.of_ascii (ascii character inText)
    exact isPart_of_isAlphanumeric
      (alphanumeric.mpr ((nameable character inText).resolve_right noSeparator))

/-- What snake case makes of a name in camel case is of parts of names only if the name is. -/
theorem isPart_of_isPart_snakeCase
    {text : List Char}
    (ascii : ∀ character ∈ text, character.toNat < 0x80)
    (parts : (snakeCase (upperCamelCase text)).all isPart) :
    (upperCamelCase text).all isPart := by
  refine List.all_eq_true.mpr fun part inName => ?_
  obtain ⟨character, inSegments, isRecased⟩ :=
    exists_related_to_mem (forall₂_upperCamelCase ascii) inName
  obtain ⟨inText, noSeparator⟩ := of_mem_flatten_segments inSegments
  obtain ⟨partAscii, _, separator⟩ := isRecased.of_ascii (ascii character inText)
  have partApart := mt separator.mp noSeparator
  have lowered : IsRecased part part.toLower := .inl rfl
  obtain ⟨_, alphanumeric, loweredSeparator⟩ := lowered.of_ascii partAscii
  -- Snake case holds the part in lowercase, which is a letter or digit just if the part is.
  have inSnakeCase : part.toLower ∈ snakeCase (upperCamelCase text) :=
    mem_snakeCase inName partApart (by simp [Text.lowercase_of_ascii partAscii])
  have loweredPart := List.all_eq_true.mp parts _ inSnakeCase
  exact isPart_of_isAlphanumeric
    (alphanumeric.mp (isAlphanumeric_of_isPart loweredPart (mt loweredSeparator.mp partApart)))

namespace Locale

/-- The variant of a locale is named with a capital first and is never called `Self`. -/
theorem capital_of_isValid
    {locale : Locale}
    (valid : locale.isRoot ∨ isValid locale.tag.toList) :
    (∃ lead text, locale.variantName.toList = lead :: text ∧ lead.isUpper) ∧
      locale.variantName ≠ "Self" := by
  by_cases isRoot : locale.isRoot
  · have name : locale.variantName = "Root" := by
      rw [variantName, if_pos isRoot]
    rw [name]
    exact ⟨⟨'R', ['o', 'o', 't'], by decide, by decide⟩, by decide⟩
  · have notRoot : locale.isRoot = false := by simpa using isRoot
    have isTag : isValid locale.tag.toList := by simpa [notRoot] using valid
    obtain ⟨language, others, shape, isLanguage⟩ := segments_eq_cons_of_isValid isTag
    have ascii := ascii_of_isValid isTag
    have segmentsAscii :
        ∀ segment ∈ language :: others,
          segment ≠ [] ∧ ∀ character ∈ segment, character.toNat < 0x80 := by
      rw [← shape]
      intro segment isSegment
      obtain ⟨nonempty, within⟩ := of_mem_segments isSegment
      exact ⟨nonempty, fun character member => ascii character (within character member).1⟩
    simp only [LanguageTag.isLanguage, Bool.and_eq_true, decide_eq_true_eq, bne_iff_ne]
      at isLanguage
    obtain ⟨⟨⟨twoLong, _⟩, notFour⟩, letters⟩ := isLanguage
    refine ⟨?_, variantName_ne_self notRoot shape segmentsAscii twoLong notFour⟩
    cases language with
    | nil =>
        exact absurd twoLong (by decide)
    | cons lead rest =>
        rw [List.all_cons, Bool.and_eq_true] at letters
        rw [toList_variantName notRoot, upperCamelCase, shape, List.flatMap_cons,
          capitalized_of_ascii (segmentsAscii _ List.mem_cons_self).2]
        exact ⟨_, _, rfl, Text.isUpper_toUpper_toLower letters.1⟩

theorem isPart_variantName_iff
    {locale : Locale}
    (valid : locale.isRoot ∨ isValid locale.tag.toList) :
    locale.variantName.toList.all isPart ↔ IsNameableTag locale.tag := by
  by_cases isRoot : locale.isRoot
  · have name : locale.variantName = "Root" := by
      rw [variantName, if_pos isRoot]
    have tag : locale.tag = "" := String.isEmpty_iff.mp isRoot
    have parts : "Root".toList.all isPart := by decide
    rw [name, tag]
    exact ⟨fun _ character member => (List.not_mem_nil member).elim, fun _ => parts⟩
  · have notRoot : locale.isRoot = false := by simpa using isRoot
    rw [toList_variantName notRoot]
    exact isPart_upperCamelCase_iff (ascii_of_isValid (by simpa [notRoot] using valid))

/-- The variant of a checked locale has a legal name just if its tag can be made into one. -/
theorem isLegal_variantName_iff
    {locale : Locale}
    (valid : locale.isRoot ∨ isValid locale.tag.toList) :
    isLegal locale.variantName ↔ IsNameableTag locale.tag := by
  rw [← isPart_variantName_iff valid]
  refine ⟨fun legal => (isPart_of_isLegal legal).2, fun parts => ?_⟩
  obtain ⟨⟨lead, text, letters, capital⟩, noSelf⟩ := capital_of_isValid valid
  rw [letters, List.all_cons, Bool.and_eq_true] at parts
  exact isLegal_of_capital letters capital parts.2 noSelf

theorem isLegal_pluralFunction_iff
    {locale : Locale}
    (valid : locale.isRoot ∨ isValid locale.tag.toList) :
    isLegal (Code.pluralFunction locale) ↔ IsNameableTag locale.tag := by
  rw [← isPart_variantName_iff valid]
  refine ⟨fun legal => ?_, isLegal_pluralFunction⟩
  by_cases isRoot : locale.isRoot
  · rw [variantName, if_pos isRoot]
    decide
  · have notRoot : locale.isRoot = false := by simpa using isRoot
    have parts := (isPart_of_isLegal legal).2
    rw [toList_pluralFunction, List.all_append, Bool.and_eq_true,
      toList_variantName notRoot] at parts
    rw [toList_variantName notRoot]
    exact isPart_of_isPart_snakeCase (ascii_of_isValid (by simpa [notRoot] using valid)) parts.2

end Locale

/-! ## Tags that differ in case or separators only -/

/-- A tag with small letters only, and with hyphens for underscores. -/
def foldedTag
    (tag : String) :
    List Char :=
  tag.toList.map fun character =>
    if character = '_' then
      '-'
    else
      character.toLower

theorem ascii_of_isPlainTag
    {tag : String}
    (plain : IsPlainTag tag) :
    ∀ character ∈ tag.toList, character.toNat < 0x80 := by
  intro character member
  rcases plain character member with alphanumeric | rfl | rfl
  · exact Text.ascii_of_isAlphanumeric alphanumeric
  · decide
  · decide

/-- The name in camel case of an ASCII tag is that of the folded tag. -/
theorem upperCamelCase_eq_foldedTag
    {tag : String}
    (ascii : ∀ character ∈ tag.toList, character.toNat < 0x80) :
    upperCamelCase tag.toList = (segments (foldedTag tag)).flatMap capitalized := by
  have keeps :
      ∀ character ∈ tag.toList,
        IsSeparator (if character = '_' then '-' else character.toLower) ↔
          IsSeparator character := by
    intro character inTag
    split
    · rename_i underscore
      simp [underscore, IsSeparator]
    · have lowered : IsRecased character character.toLower := .inl rfl
      exact (lowered.of_ascii (ascii character inTag)).2.2
  rw [foldedTag, segments_map keeps, List.flatMap_map, upperCamelCase]
  refine List.flatMap_congr fun segment isSegment => ?_
  obtain ⟨_, within⟩ := of_mem_segments isSegment
  rw [Text.lowercaseText_of_ascii fun character inSegment =>
    ascii character (within character inSegment).1]
  refine congrArg capitalized (List.map_congr_left fun character inSegment => ?_)
  have noUnderscore : character ≠ '_' := by
    rintro rfl
    exact (within _ inSegment).2 (.inr (.inl rfl))
  rw [if_neg noUnderscore]

theorem Locale.variantName_of_foldedTag
    {first second : Locale}
    (firstAscii : ∀ character ∈ first.tag.toList, character.toNat < 0x80)
    (secondAscii : ∀ character ∈ second.tag.toList, character.toNat < 0x80)
    (same : foldedTag first.tag = foldedTag second.tag) :
    first.variantName = second.variantName := by
  have sameCamel : upperCamelCase first.tag.toList = upperCamelCase second.tag.toList := by
    rw [upperCamelCase_eq_foldedTag firstAscii, upperCamelCase_eq_foldedTag secondAscii, same]
  have sameLength : first.tag.toList.length = second.tag.toList.length := by
    simpa [foldedTag] using congrArg List.length same
  have sameRoot : first.isRoot = second.isRoot := by
    rw [isRoot, isRoot, Bool.eq_iff_iff, String.isEmpty_iff, String.isEmpty_iff,
      ← String.toList_eq_nil_iff, ← String.toList_eq_nil_iff, ← List.length_eq_zero_iff,
      ← List.length_eq_zero_iff, sameLength]
  rw [variantName, variantName, sameCamel, sameRoot]

/-! ## Checked locales -/

namespace Validation

theorem localeDiagnostics_of_validate
    {sourceSet : SourceSet}
    {tree : FileTree}
    {input output : Path}
    {bundle : Bundle}
    (validated : validate sourceSet tree input output = .ok bundle) :
    localeDiagnostics sourceSet = [] := by
  obtain ⟨root, resources, _, _, silent, _⟩ := validate_eq_ok_iff.mp validated
  simp only [diagnostics, List.append_eq_nil_iff] at silent
  exact silent.1.1.1.1.1

theorem wellFormedLocales_of_validate
    {sourceSet : SourceSet}
    {tree : FileTree}
    {input output : Path}
    {bundle : Bundle}
    (validated : validate sourceSet tree input output = .ok bundle) :
    WellFormedLocales sourceSet.locales :=
  wellFormedLocales_of_silent (localeDiagnostics_of_validate validated)

/-! ## Legal names -/

/-- The names that generated code gives to a checked locale, that of its variant and that of its
plural function, are legal just if its tag holds nothing but letters, digits and separators. -/
theorem isLegal_iff_isNameableTag
    {sourceSet : SourceSet}
    {tree : FileTree}
    {input output : Path}
    {bundle : Bundle}
    {locale : Locale}
    (validated : validate sourceSet tree input output = .ok bundle)
    (isMember : locale ∈ sourceSet.locales) :
    (isLegal locale.variantName ↔ IsNameableTag locale.tag) ∧
      (isLegal (Code.pluralFunction locale) ↔ IsNameableTag locale.tag) := by
  have valid := (wellFormedLocales_of_validate validated).tags locale isMember
  exact ⟨Locale.isLegal_variantName_iff valid, Locale.isLegal_pluralFunction_iff valid⟩

/-- A variant of four characters with a dot makes two segments, the first a single digit. -/
theorem isLegal_iff_isNameableTag_with_dot :
    let locale : Locale := ⟨"de-1.90", 1, "0"⟩
    let sourceSet : SourceSet := { targetName := "Messages", locales := [⟨"", 1, "0"⟩, locale] }
    let tree : FileTree := { nodes := [(["messages.properties"], .file "a=b".toUTF8.data.toList)] }
    ∃ bundle,
      validate sourceSet tree ⟨"."⟩ ⟨"out"⟩ = .ok bundle ∧
      locale ∈ sourceSet.locales ∧
      (isLegal "De190" ↔ IsNameableTag locale.tag) ∧
      (isLegal "plural_form_de190" ↔ IsNameableTag locale.tag) := by
  intro locale sourceSet tree
  obtain ⟨bundle, validated⟩ : ∃ bundle, validate sourceSet tree ⟨"."⟩ ⟨"out"⟩ = .ok bundle :=
    exists_bundle_of_passesBeyondRules (by decide) (by decide +kernel)
  have isMember : locale ∈ sourceSet.locales := by simp [sourceSet]
  have variantName : locale.variantName = "De190" := by decide +kernel
  have pluralFunction : Code.pluralFunction locale = "plural_form_de190" := by decide +kernel
  have names := isLegal_iff_isNameableTag validated isMember
  rw [variantName, pluralFunction] at names
  exact ⟨bundle, validated, isMember, names⟩

/-- A locale is accepted whose names are not legal. -/
theorem illegal_names_of_checked_locale :
    let locale : Locale := ⟨"en-@abc", 1, "0"⟩
    let sourceSet : SourceSet := { targetName := "Messages", locales := [⟨"", 1, "0"⟩, locale] }
    let tree : FileTree := { nodes := [(["messages.properties"], .file "a=b".toUTF8.data.toList)] }
    ∃ bundle,
      validate sourceSet tree ⟨"."⟩ ⟨"out"⟩ = .ok bundle ∧
      locale ∈ bundle.locales ∧
      isLegal locale.variantName = false ∧
      isLegal (Code.pluralFunction locale) = false := by
  intro locale sourceSet tree
  obtain ⟨bundle, validated⟩ : ∃ bundle, validate sourceSet tree ⟨"."⟩ ⟨"out"⟩ = .ok bundle :=
    exists_bundle_of_passesBeyondRules (by decide) (by decide +kernel)
  obtain ⟨_, _, _, _, _, found⟩ := validate_eq_ok_iff.mp validated
  have locales : bundle.locales = sourceSet.locales := (parts_of_bundleOf? found).2.2.1
  refine ⟨bundle, validated, by simp [locales, sourceSet], by decide +kernel, by decide +kernel⟩

/-! ## Distinct names -/

/-- Whether some locales differ in the names of their variants, in the names of their plural
functions, and in their folded tags. -/
structure HaveDistinctNames
    (locales : List Locale) :
    Prop where
  variants : locales.Pairwise fun first second => first.variantName ≠ second.variantName
  pluralFunctions :
    locales.Pairwise fun first second =>
      Code.pluralFunction first ≠ Code.pluralFunction second
  tags : locales.Pairwise fun first second => foldedTag first.tag ≠ foldedTag second.tag

/-- Checked locales with plain tags differ in every name that generated code gives to them, and no
two of their tags are the same but for the case of letters and the choice of separators. -/
theorem haveDistinctNames_of_validate
    {sourceSet : SourceSet}
    {tree : FileTree}
    {input output : Path}
    {bundle : Bundle}
    (validated : validate sourceSet tree input output = .ok bundle)
    (plain : ∀ locale ∈ sourceSet.locales, IsPlainTag locale.tag) :
    HaveDistinctNames sourceSet.locales := by
  have wellFormed := wellFormedLocales_of_validate validated
  have named : ∀ locale ∈ sourceSet.locales, locale.IsNamed := fun locale isMember =>
    Locale.isNamed_of_isValid (plain locale isMember) (wellFormed.tags locale isMember)
  refine ⟨wellFormed.variants, ?_, ?_⟩
  · refine wellFormed.variants.imp_of_mem fun firstMember secondMember differ same => differ ?_
    exact Locale.variantName_of_pluralFunction (named _ firstMember) (named _ secondMember) same
  · refine wellFormed.variants.imp_of_mem fun firstMember secondMember differ same => differ ?_
    exact Locale.variantName_of_foldedTag (ascii_of_isPlainTag (plain _ firstMember))
      (ascii_of_isPlainTag (plain _ secondMember)) same

/-- Digits after digits and letters after digits get no underscore of their own. -/
theorem haveDistinctNames_of_validate_digits :
    let sourceSet : SourceSet := {
      targetName := "Messages"
      locales := [⟨"", 1, "0"⟩, ⟨"de-1996", 1, "0"⟩, ⟨"de_419_1abc", 1, "0"⟩, ⟨"DE-AT", 1, "0"⟩]
    }
    let tree : FileTree := { nodes := [(["messages.properties"], .file "a=b".toUTF8.data.toList)] }
    ∃ bundle,
      validate sourceSet tree ⟨"."⟩ ⟨"out"⟩ = .ok bundle ∧
      (∀ locale ∈ sourceSet.locales, IsPlainTag locale.tag) ∧
      HaveDistinctNames sourceSet.locales := by
  intro sourceSet tree
  obtain ⟨bundle, validated⟩ : ∃ bundle, validate sourceSet tree ⟨"."⟩ ⟨"out"⟩ = .ok bundle :=
    exists_bundle_of_passesBeyondRules (by decide) (by decide +kernel)
  have plain : ∀ locale ∈ sourceSet.locales, IsPlainTag locale.tag := by decide
  exact ⟨bundle, validated, plain, haveDistinctNames_of_validate validated plain⟩

end Validation

end Phrasebook
