import Phrasebook.Proofs.Code.Members
import Phrasebook.Proofs.Validation.Target

namespace Phrasebook.Code

open Generated

/-!
# Items of generated modules

A module declares the enumeration of its locales, the members of that enumeration, the generated
type and its members.
-/

/-! ## The enumeration of locales -/

/-- The lexemes for a locale in the enumeration of locales. -/
def variantLexemes
    (locale : Locale) :
    List Lexeme :=
  let mark : List Lexeme :=
    if locale.isRoot then
      [.mark .hash, .mark .openBracket, .name "default", .mark .closeBracket]
    else
      []
  mark ++ [.name locale.variantName, .mark .comma]

theorem spellsLines_variantLines
    {locale : Locale}
    (named : locale.IsNamed) :
    SpellsLines (variantLines locale) (variantLexemes locale) := by
  have comma : Completes (',' :: []) [.mark .comma] := by decide
  have name := (spells_name named.isLegal_variantName).completes (by decide) comma
  have spelled :
      Spells (locale.variantName ++ ",").toList [.name locale.variantName, .mark .comma] := by
    simpa [String.toList_append] using name.spells
  have variant : SpellsLines [.plain (locale.variantName ++ ",")] _ := .singleton spelled
  have defaultMark :
      Spells "#[default]".toList
        [.mark .hash, .mark .openBracket, .name "default", .mark .closeBracket] := by
    decide
  unfold variantLines variantLexemes
  split
  · exact variant.cons defaultMark
  · exact variant

theorem balanced_variantLexemes
    (locale : Locale) :
    Balanced (variantLexemes locale) := by
  have variant : Balanced [.name locale.variantName, .mark .comma] :=
    .cons rfl (.singleton rfl)
  have marked : Balanced [.name "default"] := .singleton rfl
  unfold variantLexemes
  split
  · exact .cons rfl (.group rfl marked variant)
  · exact variant

theorem readVariants_variantLexemes
    (locales : List Locale) :
    readVariants (locales.flatMap variantLexemes) = some (locales.map Locale.variantName) := by
  induction locales with
  | nil =>
      rfl
  | cons locale rest inductionHypothesis =>
      rw [List.flatMap_cons, List.map_cons]
      unfold variantLexemes
      split
      · exact congrArg (Option.map (locale.variantName :: ·)) inductionHypothesis
      · exact congrArg (Option.map (locale.variantName :: ·)) inductionHypothesis

/-- The lexemes of an attribute that derives what some names stand for. -/
def derivation
    (names : List String) :
    List Lexeme :=
  [.mark .hash, .mark .openBracket, .name "derive", .mark .openParenthesis] ++
    ([.mark .comma].intercalate (names.map fun name => [.name name]) ++
      [.mark .closeParenthesis, .mark .closeBracket])

theorem balanced_names
    (names : List String) :
    Balanced ([.mark .comma].intercalate (names.map fun name => [.name name])) := by
  induction names with
  | nil =>
      exact .nil
  | cons name rest inductionHypothesis =>
      cases rest with
      | nil =>
          exact .singleton rfl
      | cons next rest =>
          rw [List.map_cons, List.map_cons, List.intercalate_cons_cons]
          exact .cons rfl (.cons rfl inductionHypothesis)

theorem skipAttribute_derivation
    (names : List String)
    (rest : List Lexeme) :
    skipAttribute (derivation names ++ rest) = some rest := by
  have inside :
      Balanced
        (.mark .openParenthesis ::
          ([.mark .comma].intercalate (names.map fun name => [.name name]) ++
            [.mark .closeParenthesis])) :=
    .group rfl (balanced_names names) .nil
  have taken := inside.takeGroup .closeBracket rfl rest
  have derives : attributes.contains "derive" := by decide
  simp only [derivation, List.cons_append, List.nil_append, List.append_assoc] at taken ⊢
  rw [skipAttribute, if_pos derives, taken]
  rfl

/-- What the enumeration of locales derives. -/
def localeDerivation :
    List Lexeme :=
  derivation
    ["Debug", "Clone", "Copy", "PartialEq", "Eq", "Hash", "PartialOrd", "Ord", "Default"]

/-- The lexemes of the enumeration of locales. -/
def localeTypeLexemes
    (locales : List Locale) :
    List Lexeme :=
  localeDerivation ++
    ([.keyword .exported, .keyword .enumeration, .name Validation.localeTagType,
        .mark .openBrace] ++
      (locales.flatMap variantLexemes ++ [.mark .closeBrace]))

theorem spellsLines_localeTypeLines
    {locales : List Locale}
    {typeName : String}
    (named : ∀ locale ∈ locales, locale.IsNamed)
    (legal : Identifier.isLegal typeName) :
    SpellsLines (localeTypeLines locales typeName) (localeTypeLexemes locales) := by
  have derives :
      Spells
        "#[derive(Debug, Clone, Copy, PartialEq, Eq, Hash, PartialOrd, Ord, Default)]".toList
        localeDerivation := by
    decide +kernel
  have opening :
      Spells ("pub enum " ++ Validation.localeTagType ++ " \x7b").toList
        [.keyword .exported, .keyword .enumeration, .name Validation.localeTagType,
          .mark .openBrace] := by
    decide
  have variants :
      SpellsLines (locales.flatMap variantLines) (locales.flatMap variantLexemes) :=
    .flatMap fun locale member => spellsLines_variantLines (named locale member)
  have lead : IsComment "/// Locales supported by [`" := ⟨by decide, by decide⟩
  have comment : IsComment ("/// Locales supported by [`" ++ typeName ++ "`].") :=
    (lead.append (Validation.onOneLine_of_isLegal legal)).append (by decide)
  have block := SpellsLines.braced opening variants
  have item :
      SpellsLines
        (.plain "#[derive(Debug, Clone, Copy, PartialEq, Eq, Hash, PartialOrd, Ord, Default)]" ::
          _)
        _ :=
    block.cons derives
  exact item.comment comment

theorem isItems_localeTypeLexemes
    (locales : List Locale) :
    IsItems (localeTypeLexemes locales)
      [.enumeration Validation.localeTagType (locales.map Locale.variantName)] := by
  have variants : Balanced (locales.flatMap variantLexemes) :=
    .flatMap fun locale _ => balanced_variantLexemes locale
  refine .attributed (skipAttribute_derivation _) fun rest => ?_
  have read :=
    readBareItem_enumeration Validation.localeTagType variants
      (readVariants_variantLexemes locales) rest
  simpa [skipExport] using read

/-! ## The members of the enumeration of locales -/

/-- The lexemes of the constant that lists all locales. -/
def allLocalesLexemes
    (locales : List Locale) :
    List Lexeme :=
  [.keyword .exported, .keyword .constant, .name "ALL", .mark .colon, .mark .openBracket,
      .name Validation.localeTagType, .mark .semicolon, .number locales.length,
      .mark .closeBracket, .mark .assign, .mark .openBracket] ++
    ([.mark .comma].intercalate (locales.map localePathLexemes) ++
      [.mark .closeBracket, .mark .semicolon])

theorem spells_localeTag
    {locale : Locale}
    (named : locale.IsNamed) :
    Spells (localeTag locale).toList (localePathLexemes locale) := by
  have type : Completes "LocaleTag::".toList [.name "LocaleTag", .mark .pathSeparator] := by
    decide
  have tag := type.spells_append (spells_name named.isLegal_variantName)
  simpa [localeTag, Validation.localeTagType, localePathLexemes, String.toList_append] using tag

theorem spells_allLocalesLine
    {locales : List Locale}
    (named : ∀ locale ∈ locales, locale.IsNamed) :
    Spells (allLocalesLine locales).text.toList (allLocalesLexemes locales) := by
  have start :
      Completes "pub const ALL: [LocaleTag; ".toList
        [.keyword .exported, .keyword .constant, .name "ALL", .mark .colon,
          .mark .openBracket, .name "LocaleTag", .mark .semicolon] := by
    decide
  have count : Spells (toString locales.length).toList [.number locales.length] := by
    rw [Nat.toString_eq_ofList_toDigits, String.toList_ofList]
    exact spells_number locales.length
  have between :
      Completes (']' :: " = [".toList) [.mark .closeBracket, .mark .assign, .mark .openBracket] := by
    decide
  have final : Spells (']' :: ";".toList) [.mark .closeBracket, .mark .semicolon] := by decide
  have tags :
      List.Forall₂ (fun text lexemes => Spells text.toList lexemes) (locales.map localeTag)
        (locales.map localePathLexemes) := by
    rw [List.forall₂_map_left_iff, List.forall₂_map_right_iff, List.forall₂_same]
    exact fun locale member => spells_localeTag (named locale member)
  have line :=
    (start.append (count.completes (by decide) between)).spells_append
      ((spells_intercalate tags).append (by decide) final)
  simpa [allLocalesLine, CodeLine.text, Validation.localeTagType, allLocalesLexemes,
    String.toList_append] using line

theorem balanced_localePaths
    (locales : List Locale) :
    Balanced ([.mark .comma].intercalate (locales.map localePathLexemes)) := by
  induction locales with
  | nil =>
      exact .nil
  | cons locale rest inductionHypothesis =>
      cases rest with
      | nil =>
          simpa using balanced_localePathLexemes locale
      | cons next rest =>
          rw [List.map_cons, List.map_cons, List.intercalate_cons_cons]
          exact ((balanced_localePathLexemes locale).append (.singleton rfl)).append
            inductionHypothesis

/-- The constant that lists all locales is no function. -/
theorem isMembers_allLocalesLexemes
    (locales : List Locale) :
    IsMembers (allLocalesLexemes locales) [] := by
  have type :
      Balanced
        [.name Validation.localeTagType, .mark .semicolon, .number locales.length] :=
    .cons rfl (.cons rfl (.singleton rfl))
  have paths := balanced_localePaths locales
  refine ⟨?_, fun {rest further} furtherRead => ?_⟩
  · have semicolon : Balanced [.mark .semicolon] := .singleton rfl
    exact .cons rfl (.cons rfl (.cons rfl (.cons rfl
      (.group rfl type (.cons rfl (.group rfl paths semicolon))))))
  · have typeTaken :=
      type.takeGroup .closeBracket rfl
        (.mark .assign :: .mark .openBracket ::
          ([.mark .comma].intercalate (locales.map localePathLexemes) ++
            .mark .closeBracket :: .mark .semicolon :: rest))
    have pathsTaken := paths.takeGroup .closeBracket rfl (.mark .semicolon :: rest)
    simp only [List.cons_append, List.nil_append] at typeTaken
    simp only [allLocalesLexemes, List.cons_append, List.nil_append, List.append_assoc]
    refine readMembers_constant "ALL" ?_ (by simp; omega) furtherRead
    simp [skipConstant, typeTaken, expectMark, pathsTaken]

/-- The written characters of the tag of a locale. -/
def writtenTag
    (locale : Locale) :
    List Char :=
  locale.tag.toList.flatMap Text.escaped

/-- The lexemes of the body of the function that returns the tag of a locale. -/
def tagTextLexemes
    (locales : List Locale) :
    List Lexeme :=
  selectionLexemes [.keyword .receiver]
    (locales.map fun locale => (localePathLexemes locale, [.literal (writtenTag locale)]))

/-- The term of the body of the function that returns the tag of a locale. -/
def tagTextTerm
    (locales : List Locale) :
    Term :=
  .selection .receiver
    (locales.map fun locale => (.path (localePath locale), .literal (writtenTag locale)))

/-- The function that returns the tag of a locale. -/
def tagTextMethod
    (locales : List Locale) :
    Function where
  name := "as_str"
  hasReceiver := true
  declared := []
  result := .lasting "static" (.named "str")
  body := tagTextLexemes locales

/-- The lexemes of the function that returns the tag of a locale. -/
def tagTextMethodLexemes
    (locales : List Locale) :
    List Lexeme :=
  FunctionWords.exported.lexemes ++
    functionLexemes "as_str" (methodLexemes []) (.lasting "static" (.named "str"))
      (tagTextLexemes locales)

theorem spells_tagTextArm
    {locale : Locale}
    (named : locale.IsNamed) :
    Spells (localeTag locale ++ " => " ++ Text.quotedString locale.tag ++ ",").toList
      (armLexemes (localePathLexemes locale, [.literal (writtenTag locale)])) := by
  have arrow : Completes (' ' :: "=> ".toList) [.mark .thickArrow] := by decide
  have comma : Completes ",".toList [.mark .comma] := by decide
  have tag := completes_localeTag named (by decide) arrow
  have arm := tag.append ((completes_quoted locale.tag.toList).append comma)
  simpa [String.toList_append, armLexemes, Text.quotedString, writtenTag] using arm.spells

theorem spellsLines_tagTextMethod
    {locales : List Locale}
    (named : ∀ locale ∈ locales, locale.IsNamed) :
    SpellsLines
      (block "pub fn as_str(&self) -> &'static str \x7b"
        (block "match self \x7b"
          (locales.map fun locale =>
            .plain (localeTag locale ++ " => " ++ Text.quotedString locale.tag ++ ","))
          "\x7d")
        "\x7d")
      (tagTextMethodLexemes locales) := by
  have opening :
      Spells "pub fn as_str(&self) -> &'static str \x7b".toList
        (FunctionWords.exported.lexemes ++
          ([.name "as_str", .mark .openParenthesis, .mark .ampersand, .keyword .receiver,
            .mark .closeParenthesis, .mark .thinArrow, .mark .ampersand, .lifetime "static",
            .name "str", .mark .openBrace] : List Lexeme)) := by
    decide +kernel
  have subject :
      Spells "match self \x7b".toList
        [.keyword .selection, .keyword .receiver, .mark .openBrace] := by
    decide
  have arms :
      SpellsLines
        (locales.flatMap fun locale =>
          [.plain (localeTag locale ++ " => " ++ Text.quotedString locale.tag ++ ",")])
        (locales.flatMap fun locale =>
          armLexemes (localePathLexemes locale, [.literal (writtenTag locale)])) :=
    .flatMap fun locale member => .singleton (spells_tagTextArm (named locale member))
  rw [← List.map_eq_flatMap] at arms
  have lines := SpellsLines.braced opening (SpellsLines.braced subject arms)
  simpa [tagTextMethodLexemes, functionLexemes, methodLexemes, tagTextLexemes,
    selectionLexemes, WrittenType.lexemes, List.flatMap_map] using lines

theorem isMembers_tagTextMethodLexemes
    (locales : List Locale) :
    IsMembers (tagTextMethodLexemes locales) [tagTextMethod locales] := by
  have body : Balanced (tagTextLexemes locales) := by
    refine balanced_selectionLexemes (.singleton rfl) fun arm member => ?_
    obtain ⟨locale, _, rfl⟩ := List.mem_map.mp member
    exact ⟨balanced_localePathLexemes locale, .singleton rfl⟩
  exact .method .exported "as_str" [] (.lasting "static" (.named "str")) body

theorem term?_tagTextMethod
    (locales : List Locale) :
    (tagTextMethod locales).term? = some (tagTextTerm locales) := by
  have tagReads (locale : Locale) :
      ReadsValue [.literal (writtenTag locale)] (.literal (writtenTag locale)) :=
    readsValue_of_readNegation (fun _ closed => readNegation_literal _ closed) (by simp)
  have reads : ReadsValue (tagTextLexemes locales) (tagTextTerm locales) := by
    refine readsValue_selection (fun rest closed => readNegation_receiver closed) ?_
    rw [List.forall₂_map_left_iff, List.forall₂_map_right_iff, List.forall₂_same]
    exact fun locale _ => ⟨readPattern_localePathLexemes locale, tagReads locale⟩
  simp [Function.term?, tagTextMethod, reads.readValue, whole]

theorem isAccepted_tagTextMethod
    (locales : List Locale) :
    (tagTextMethod locales).isAccepted := by
  have declares : (tagTextMethod locales).declaresVariables := by
    have names : (tagTextMethod locales).parameters = [] := rfl
    rw [Function.declaresVariables_iff, names]
    exact ⟨List.nodup_nil, List.forall_mem_nil _⟩
  have fits : ∀ fixed, (tagTextTerm locales).fitsWidth fixed := by
    apply Term.fitsWidth_selection
    · rfl
    · rw [List.forall_mem_map]
      exact fun _ _ _ => rfl
  exact (Function.isAccepted_iff_of_term (term?_tagTextMethod locales)).mpr ⟨declares, fits _⟩

/-- The function that returns the tag of a locale mentions no type but that of texts. -/
theorem typeNames_tagTextMethod
    (locales : List Locale) :
    ∀ name ∈ (tagTextMethod locales).typeNames, name = "str" := by
  have called : (tagTextTerm locales).calledTypes = [] := by
    apply Term.calledTypes_selection
    · rfl
    · rw [List.forall_mem_map]
      exact fun _ _ => rfl
  rw [Function.typeNames_of_term (term?_tagTextMethod locales) called]
  simp [tagTextMethod, WrittenType.name?]

/-- The lexemes of the members of the enumeration of locales. -/
def localeMemberLexemes
    (locales : List Locale) :
    List Lexeme :=
  [.keyword .implementation, .name Validation.localeTagType, .mark .openBrace] ++
    ((allLocalesLexemes locales ++ tagTextMethodLexemes locales) ++ [.mark .closeBrace])

theorem spellsLines_localeMemberLines
    {locales : List Locale}
    (named : ∀ locale ∈ locales, locale.IsNamed) :
    SpellsLines (localeMemberLines locales) (localeMemberLexemes locales) := by
  have opening :
      Spells ("impl " ++ Validation.localeTagType ++ " \x7b").toList
        [.keyword .implementation, .name Validation.localeTagType, .mark .openBrace] := by
    decide
  have comment : IsComment "/// The configured tag; empty for the root locale." :=
    ⟨by decide, by decide⟩
  have members :=
    ((spellsLines_tagTextMethod named).comment comment).blank.cons
      (spells_allLocalesLine named)
  exact SpellsLines.braced opening members

theorem isItems_localeMemberLexemes
    (locales : List Locale) :
    IsItems (localeMemberLexemes locales)
      [.implementation Validation.localeTagType [tagTextMethod locales]] := by
  have members :=
    (isMembers_allLocalesLexemes locales).append (isMembers_tagTextMethodLexemes locales)
  refine .single fun rest => ⟨_, rfl, ?_⟩
  have read := readBareItem_implementation Validation.localeTagType members rest
  simpa [localeMemberLexemes, skipExport] using read

/-! ## The generated type -/

/-- What the generated type derives. -/
def typeDerivation :
    List Lexeme :=
  derivation ["Debug", "Clone", "Copy", "PartialEq", "Eq", "Hash", "Default"]

/-- The lexemes of the field of the generated type. -/
def fieldLexemes :
    List Lexeme :=
  [.name localeField, .mark .colon, .name Validation.localeTagType, .mark .comma]

/-- The lexemes of the generated type. -/
def typeDeclarationLexemes
    (typeName : String) :
    List Lexeme :=
  typeDerivation ++
    ([.keyword .exported, .keyword .record, .name typeName, .mark .openBrace] ++
      (fieldLexemes ++ [.mark .closeBrace]))

theorem spellsLines_typeLines
    {typeName : String}
    (legal : Identifier.isLegal typeName) :
    SpellsLines (typeLines typeName) (typeDeclarationLexemes typeName) := by
  have derives :
      Spells "#[derive(Debug, Clone, Copy, PartialEq, Eq, Hash, Default)]".toList
        typeDerivation := by
    decide +kernel
  have words : Completes "pub struct ".toList [.keyword .exported, .keyword .record] := by
    decide
  have brace : Completes (' ' :: "\x7b".toList) [.mark .openBrace] := by decide
  have opening :
      Spells ("pub struct " ++ typeName ++ " \x7b").toList
        [.keyword .exported, .keyword .record, .name typeName, .mark .openBrace] := by
    simpa [String.toList_append] using (words.name legal (by decide) brace).spells
  have field :
      Spells ("locale_tag: " ++ Validation.localeTagType ++ ",").toList fieldLexemes := by
    decide
  have fields :
      SpellsLines [.plain ("locale_tag: " ++ Validation.localeTagType ++ ",")] fieldLexemes :=
    .singleton field
  have comment :
      IsComment ("/// Localized messages, see [`" ++ Validation.localeTagType ++ "`].") :=
    ⟨by decide, by decide⟩
  have item :
      SpellsLines
        (.plain "#[derive(Debug, Clone, Copy, PartialEq, Eq, Hash, Default)]" :: _) _ :=
    (SpellsLines.braced opening fields).cons derives
  exact item.comment comment

theorem readNames_fieldLexemes :
    readNames fieldLexemes = some [localeDeclared] := by
  have nothing : readNames [] = some [] := readNames.eq_def _
  rw [fieldLexemes, readNames]
  simp [readType, lessThan?, nothing, localeDeclared]

theorem isItems_typeDeclarationLexemes
    (typeName : String) :
    IsItems (typeDeclarationLexemes typeName) [.record typeName [localeDeclared]] := by
  have field : Balanced fieldLexemes :=
    .cons rfl (.cons rfl (.cons rfl (.singleton rfl)))
  refine .attributed (skipAttribute_derivation _) fun rest => ?_
  have read := readBareItem_record typeName field readNames_fieldLexemes rest
  simpa [skipExport] using read

end Phrasebook.Code
