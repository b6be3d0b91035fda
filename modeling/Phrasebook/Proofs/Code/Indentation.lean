import Phrasebook.Proofs.Code.LineText
import Phrasebook.Proofs.Code.Outline
import Phrasebook.Proofs.Code.Render
import Phrasebook.Proofs.Identifier.SnakeCase
import Phrasebook.Proofs.Validation.LocaleNames

namespace Phrasebook

/-!
# Indented code

The lines of a valid bundle are balanced, so its code is that of an outline. No text of a line
starts with a space, and so each line is indented by four spaces for every block around it and by
no more. A tag of a locale may have a line break in it, which is then in the names of the locale;
where no tag has one, all texts stay on one line, and the lines of the code are those of the
outline.
-/

/-! ## Names of locales -/

open LanguageTag Identifier

variable {sameLine : Prop}

/-- Whether the names of a locale in the code can start lines, and stay on one if `sameLine`
holds. -/
structure HasLineNames
    (sameLine : Prop)
    (locale : Locale) :
    Prop where
  isVariantText : Code.IsLineText sameLine locale.variantName
  isFunctionText : Code.IsLineText sameLine (Code.pluralFunction locale)

/-- A change of case makes no line break of another ASCII character. -/
theorem IsRecased.onOneLine
    {character recased : Char}
    (isRecased : IsRecased character recased)
    (ascii : character.toNat < 0x80)
    (onOneLine : character ≠ '\n' ∧ character ≠ '\r') :
    recased ≠ '\n' ∧ recased ≠ '\r' := by
  have known :=
    Text.of_ascii
      (fun character =>
        character == '\n' || character == '\r' ||
          [character.toLower, character.toLower.toUpper].all fun recased =>
            recased != '\n' && recased != '\r')
      (by decide +kernel) ascii
  simp only [beq_eq_false_iff_ne.mpr onOneLine.1, beq_eq_false_iff_ne.mpr onOneLine.2,
    Bool.false_or, List.all_cons, List.all_nil, Bool.and_true, Bool.and_eq_true, bne_iff_ne]
    at known
  rcases isRecased with rfl | rfl
  · exact known.1
  · exact known.2

/-- The characters of the variant of a checked locale are ASCII, and no line breaks if its tag has
none. -/
theorem of_mem_variantName
    {locale : Locale}
    {part : Char}
    (valid : locale.isRoot ∨ isValid locale.tag.toList)
    (onOneLine : sameLine → Text.OnOneLine locale.tag.toList)
    (member : part ∈ locale.variantName.toList) :
    part.toNat < 0x80 ∧ (sameLine → part ≠ '\n' ∧ part ≠ '\r') := by
  by_cases isRoot : locale.isRoot
  · have root :
        "Root".toList.all fun part => part.toNat < 0x80 && part != '\n' && part != '\r' := by
      decide
    rw [Locale.variantName, if_pos isRoot] at member
    have known := List.all_eq_true.mp root part member
    simp only [Bool.and_eq_true, decide_eq_true_eq, bne_iff_ne] at known
    exact ⟨known.1.1, fun _ => ⟨known.1.2, known.2⟩⟩
  · have notRoot : locale.isRoot = false := by simpa using isRoot
    have ascii := ascii_of_isValid (valid.resolve_left isRoot)
    rw [Locale.toList_variantName notRoot] at member
    obtain ⟨character, inSegments, isRecased⟩ :=
      exists_related_to_mem (forall₂_upperCamelCase ascii) member
    have inTag := (of_mem_flatten_segments inSegments).1
    exact ⟨(isRecased.of_ascii (ascii character inTag)).1, fun holds =>
      isRecased.onOneLine (ascii character inTag) (onOneLine holds character inTag)⟩

/-- The names of a checked locale start lines, and stay on one if its tag does. -/
theorem hasLineNames_of_isValid
    {locale : Locale}
    (valid : locale.isRoot ∨ isValid locale.tag.toList)
    (onOneLine : sameLine → Text.OnOneLine locale.tag.toList) :
    HasLineNames sameLine locale := by
  have variant {part : Char} (member : part ∈ locale.variantName.toList) :=
    of_mem_variantName valid onOneLine member
  obtain ⟨⟨lead, rest, letters, capital⟩, -⟩ := Locale.capital_of_isValid valid
  have prefixText : Code.IsLineText sameLine "plural_form_" := .constant (by decide)
  refine ⟨⟨?_, fun holds part member => (variant member).2 holds⟩,
    prefixText.append fun holds part member => ?_⟩
  · have noSpace : lead ≠ ' ' := by
      rintro rfl
      exact absurd capital (by decide)
    simpa [letters] using noSpace
  · rw [Locale.functionSuffix_eq_snakeCase, String.toList_ofList] at member
    rcases of_mem_snakeCase member with rfl | ⟨character, inName, inLowercase⟩
    · decide
    · obtain ⟨ascii, stays⟩ := variant inName
      rw [Text.lowercase_of_ascii ascii, List.mem_singleton] at inLowercase
      exact IsRecased.onOneLine (.inl inLowercase) ascii (stays holds)

namespace Code

variable {locale : Locale} {locales : List Locale}

/-! ## Texts of the lines about locales -/

theorem isLineText_localeTag
    (named : HasLineNames sameLine locale) :
    IsLineText sameLine (localeTag locale) := by
  have lead : IsLineText sameLine (Validation.localeTagType ++ "::") := .constant (by decide)
  exact lead.append named.isVariantText.onOneLine

theorem haveLineTexts_headerLines
    {target : TargetName}
    (isTarget : Validation.IsTarget target) :
    HaveLineTexts sameLine (headerLines target) := by
  have generated : IsLineText sameLine "// @generated by staticbundle. Do not edit by hand." :=
    .constant (by decide)
  have source : IsLineText sameLine ("// Message source `" ++ target.display ++ "`.") :=
    .between (by decide) fun _ => isTarget.onOneLine_display
  exact .plain generated (.plain source (.blank .nil))

theorem haveLineTexts_variantLines
    (named : HasLineNames sameLine locale) :
    HaveLineTexts sameLine (variantLines locale) := by
  have marked : IsLineText sameLine "#[default]" := .constant (by decide)
  have variant : IsLineText sameLine (locale.variantName ++ ",") :=
    named.isVariantText.append_constant (by decide)
  unfold variantLines
  split
  · exact .plain marked (.plain variant .nil)
  · exact .plain variant .nil

theorem haveLineTexts_localeTypeLines
    {typeName : String}
    (named : ∀ locale ∈ locales, HasLineNames sameLine locale)
    (legal : isLegal typeName) :
    HaveLineTexts sameLine (localeTypeLines locales typeName) := by
  have supported : IsLineText sameLine ("/// Locales supported by [`" ++ typeName ++ "`].") :=
    .between (by decide) fun _ => Validation.onOneLine_of_isLegal legal
  have derived :
      IsLineText sameLine
        "#[derive(Debug, Clone, Copy, PartialEq, Eq, Hash, PartialOrd, Ord, Default)]" :=
    .constant (by decide)
  have variants : HaveLineTexts sameLine (locales.flatMap variantLines) :=
    .flatMap fun locale member => haveLineTexts_variantLines (named locale member)
  exact .plain supported
    (.plain derived (.block (.constant (by decide)) variants isLineText_closeBrace))

theorem haveLineTexts_localeMemberLines
    (named : ∀ locale ∈ locales, HasLineNames sameLine locale) :
    HaveLineTexts sameLine (localeMemberLines locales) := by
  have counted :
      IsLineText sameLine
        ("pub const ALL: [" ++ Validation.localeTagType ++ "; " ++ toString locales.length ++
          "] = [") :=
    .between (by decide) (isLineText_toString locales.length).onOneLine
  have tags (holds : sameLine) :
      Text.OnOneLine (", ".intercalate (locales.map localeTag)).toList :=
    onOneLine_intercalate
      (List.forall_mem_map.mpr fun locale member =>
        (isLineText_localeTag (named locale member)).onOneLine holds)
  have all := (counted.append tags).append_constant (by decide : Text.OnOneLine "];".toList)
  have documented : IsLineText sameLine "/// The configured tag; empty for the root locale." :=
    .constant (by decide)
  have arms :
      HaveLineTexts sameLine
        (locales.map fun locale =>
          .plain (localeTag locale ++ " => " ++ Text.quotedString locale.tag ++ ",")) :=
    .map fun locale member =>
      (isLineText_localeTag (named locale member)).arm
        (fun _ => onOneLine_quotedString locale.tag) (by decide)
  have selection :
      HaveLineTexts sameLine
        (block "pub fn as_str(&self) -> &'static str \x7b"
          (block "match self \x7b"
            (locales.map fun locale =>
              .plain (localeTag locale ++ " => " ++ Text.quotedString locale.tag ++ ","))
            "\x7d")
          "\x7d") :=
    .block (.constant (by decide))
      (.block (.constant (by decide)) arms isLineText_closeBrace) isLineText_closeBrace
  exact .block (.constant (by decide)) (.plain all (.blank (.plain documented selection)))
    isLineText_closeBrace

theorem haveLineTexts_typeLines
    {typeName : String}
    (legal : isLegal typeName) :
    HaveLineTexts sameLine (typeLines typeName) := by
  have opening : IsLineText sameLine ("pub struct " ++ typeName ++ " \x7b") :=
    .between (by decide) fun _ => Validation.onOneLine_of_isLegal legal
  have field :
      HaveLineTexts sameLine [.plain ("locale_tag: " ++ Validation.localeTagType ++ ",")] :=
    .constant (by decide)
  exact .plain (.constant (by decide)) (.plain (.constant (by decide))
    (.block opening field isLineText_closeBrace))

theorem haveLineTexts_pluralFormLines
    (named : ∀ locale ∈ locales, HasLineNames sameLine locale) :
    HaveLineTexts sameLine (pluralFormLines locales) := by
  unfold pluralFormLines
  split
  · rename_i only
    have isText := (named only List.mem_cons_self).isFunctionText
    exact .plain (isText.append_constant (by decide)) .nil
  · refine .block (.constant (by decide)) (.map fun locale member => ?_) isLineText_closeBrace
    exact (isLineText_localeTag (named locale member)).arm
      (named locale member).isFunctionText.onOneLine (by decide)

theorem haveLineTexts_memberLines
    (named : ∀ locale ∈ locales, HasLineNames sameLine locale) :
    HaveLineTexts sameLine (memberLines locales) := by
  have values : HaveLineTexts sameLine valueMethodLines := .constant (by decide)
  have documented :
      IsLineText sameLine "/// Plural form index of `n` in the current locale." :=
    .constant (by decide)
  have method :
      HaveLineTexts sameLine
        (block "pub fn plural_form(&self, n: i64) -> i64 \x7b" (pluralFormLines locales) "\x7d") :=
    .block (.constant (by decide)) (haveLineTexts_pluralFormLines named) isLineText_closeBrace
  rw [memberLines_eq]
  exact values.append (.blank (.plain documented method))

theorem haveLineTexts_pluralFunctionLines
    {rule : Plural.Rule}
    (named : HasLineNames sameLine locale)
    (nonnegative : rule.expression.LiteralsNonnegative) :
    HaveLineTexts sameLine (pluralFunctionLines locale rule) := by
  have parameter :
      Text.OnOneLine (if rule.mentionsQuantity then "n" else "_n").toList := by
    split <;> decide
  have called : IsLineText sameLine ("fn " ++ pluralFunction locale ++ "(") :=
    .between (by decide) named.isFunctionText.onOneLine
  have opening := (called.append_constant parameter).append_constant
    (by decide : Text.OnOneLine ": i64) -> i64 \x7b".toList)
  exact .blank (.block opening (.plain (rule.isLineText_code nonnegative) .nil)
    isLineText_closeBrace)

/-! ## Texts of the lines of accessors -/

/-- Whether all parts of a selection are texts of lines. -/
def Selection.HasLineTexts
    (sameLine : Prop) :
    Selection →
    Prop
  | .always expression => IsLineText sameLine expression
  | .byForm function initial last =>
      IsLineText sameLine function ∧
        ∀ expression ∈ initial ++ [last], IsLineText sameLine expression

theorem Selection.hasLineTexts_ofMessage
    (named : HasLineNames sameLine locale)
    (entry : CatalogEntry)
    (message : Message) :
    (ofMessage entry message locale).HasLineTexts sameLine := by
  have isText :
      ∀ expression ∈ message.variants.map (stringExpression entry.arguments),
        IsLineText sameLine expression :=
    List.forall_mem_map.mpr fun pieces _ => isLineText_stringExpression entry.arguments pieces
  unfold ofMessage
  split
  · exact .constant (by decide)
  · rename_i first rest shape
    rw [shape] at isText
    split
    · exact isText first List.mem_cons_self
    · rename_i last isLast
      split
      · refine ⟨named.isFunctionText, ?_⟩
        rw [List.cons_append, List.dropLast_append_getLast? last isLast]
        exact isText
      · exact isText first List.mem_cons_self

theorem haveLineTexts_formLines
    {expressions : List String}
    (texts : ∀ expression ∈ expressions, IsLineText sameLine expression)
    (form : Nat) :
    HaveLineTexts sameLine (Selection.formLines form expressions) := by
  induction expressions generalizing form with
  | nil =>
      exact .nil
  | cons expression expressions inductionHypothesis =>
      rw [List.forall_mem_cons] at texts
      exact .plain ((isLineText_toString form).arm texts.1.onOneLine (by decide))
        (inductionHypothesis texts.2 (form + 1))

theorem Selection.haveLineTexts_lines
    {before after : String}
    {selection : Selection}
    (texts : selection.HasLineTexts sameLine)
    (beforeText : before = "" ∨ IsLineText sameLine before)
    (afterOn : Text.OnOneLine after.toList) :
    HaveLineTexts sameLine (selection.lines before after) := by
  cases selection with
  | always expression =>
      exact .plain ((texts.behind beforeText).append_constant afterOn) .nil
  | byForm function initial last =>
      obtain ⟨functionText, expressionTexts⟩ := texts
      rw [List.forall_mem_append, List.forall_mem_singleton] at expressionTexts
      have keyword : IsLineText sameLine "match " := .constant (by decide)
      have parenthesis : Text.OnOneLine "(".toList := by decide
      have quantity : Text.OnOneLine Validation.quantityParameter.toList := by decide
      have called := (keyword.behind beforeText).append functionText.onOneLine
      have opening := (called.append_constant parenthesis).append_constant quantity
      have lastArm : IsLineText sameLine ("_ => " ++ last ++ ",") :=
        .between (by decide) expressionTexts.2.onOneLine
      exact .block (opening.append_constant (by decide))
        ((haveLineTexts_formLines expressionTexts.1 0).append (.plain lastArm .nil))
        (isLineText_closeBrace.append_constant afterOn)

theorem Accessor.onOneLine_signature
    {accessor : Accessor}
    (parameters :
      ∀ parameter ∈ accessor.parameters,
        Text.OnOneLine parameter.name.toList ∧ Text.OnOneLine parameter.type.toList) :
    Text.OnOneLine accessor.signature.toList := by
  refine onOneLine_intercalate (List.forall_mem_cons.mpr ⟨by decide, ?_⟩)
  refine List.forall_mem_map.mpr fun parameter member => ?_
  obtain ⟨nameOn, typeOn⟩ := parameters parameter member
  have colon : Text.OnOneLine ": ".toList := by decide
  rw [String.toList_append, String.toList_append]
  exact (nameOn.append colon).append typeOn

theorem onOneLine_parametersOf
    {entry : CatalogEntry}
    (parameters :
      ∀ argument ∈ entry.arguments.arguments, Validation.IsParameter entry.arity argument) :
    ∀ parameter ∈ Accessor.parametersOf entry,
      Text.OnOneLine parameter.name.toList ∧ Text.OnOneLine parameter.type.toList := by
  refine List.forall_mem_append.mpr ⟨?_, List.forall_mem_map.mpr fun argument member => ?_⟩
  · split
    · decide
    · exact fun parameter member => absurd member List.not_mem_nil
  · have typeOn : Text.OnOneLine argument.type.code.toList := by cases argument.type <;> decide
    exact ⟨Validation.onOneLine_of_isLegal (parameters argument member).legal, typeOn⟩

theorem AccessorBody.hasLineTexts_selectionIn
    {root : Locale}
    (named : HasLineNames sameLine locale)
    (rootNamed : HasLineNames sameLine root)
    (entry : CatalogEntry)
    (override : Option Message) :
    (selectionIn root entry locale override).HasLineTexts sameLine := by
  cases override with
  | none =>
      exact Selection.hasLineTexts_ofMessage rootNamed entry entry.root
  | some message =>
      exact Selection.hasLineTexts_ofMessage named entry message

theorem AccessorBody.haveLineTexts_ofEntry
    {root : Locale}
    (named : ∀ locale ∈ locales, HasLineNames sameLine locale)
    (rootNamed : HasLineNames sameLine root)
    (entry : CatalogEntry) :
    HaveLineTexts sameLine (ofEntry locales root entry).lines := by
  unfold ofEntry
  split
  · rename_i only
    have texts := Selection.hasLineTexts_ofMessage (named only List.mem_cons_self) entry entry.root
    exact Selection.haveLineTexts_lines texts (.inl rfl) (by decide)
  · refine .block (.constant (by decide)) (.flatMap ?_) isLineText_closeBrace
    refine List.forall_mem_map.mpr fun pair member => ?_
    have isNamed := named pair.1 (List.fst_mem_of_mem_zipIdx member)
    have arrow : Text.OnOneLine " => ".toList := by decide
    have pattern := (isLineText_localeTag isNamed).append_constant arrow
    have texts := hasLineTexts_selectionIn isNamed rootNamed entry (entry.override? pair.2)
    exact Selection.haveLineTexts_lines texts (.inr pattern) (by decide)

/-- An accessor of a valid bundle has the texts of lines. -/
theorem Accessor.haveLineTexts_ofEntry
    {root : Locale}
    {entry : CatalogEntry}
    {name : String}
    (named : ∀ locale ∈ locales, HasLineNames sameLine locale)
    (rootNamed : HasLineNames sameLine root)
    (parameters :
      ∀ argument ∈ entry.arguments.arguments, Validation.IsParameter entry.arity argument)
    (legal : isLegal name) :
    HaveLineTexts sameLine (ofEntry locales root entry name).lines := by
  have documented :
      IsLineText sameLine ("/// Message " ++ Text.quotedString entry.key ++ ".") :=
    .between (by decide) fun _ => onOneLine_quotedString entry.key
  have called : IsLineText sameLine ("pub fn " ++ name ++ "(") :=
    .between (by decide) fun _ => Validation.onOneLine_of_isLegal legal
  have signatureOn : Text.OnOneLine (ofEntry locales root entry name).signature.toList :=
    onOneLine_signature (onOneLine_parametersOf parameters)
  have opening := (called.append_constant signatureOn).append_constant
    (by decide : Text.OnOneLine ") -> String \x7b".toList)
  exact .plain documented (.block opening
    (AccessorBody.haveLineTexts_ofEntry named rootNamed entry) isLineText_closeBrace)

/-! ## Texts of all lines -/

theorem haveLineTexts_implementationLines
    {bundle : Bundle}
    {root : Locale}
    (rooted : Validation.IsRootIndex bundle.locales bundle.catalog.rootIndex root)
    (named : ∀ locale ∈ bundle.locales, HasLineNames sameLine locale)
    (legal : isLegal bundle.target.typeName)
    (parameters :
      ∀ entry ∈ bundle.catalog.entries, ∀ argument ∈ entry.arguments.arguments,
        Validation.IsParameter entry.arity argument)
    (accessors : ∀ name ∈ bundle.accessors, isLegal name) :
    HaveLineTexts sameLine (implementationLines bundle) := by
  have opening : IsLineText sameLine ("impl " ++ bundle.target.typeName ++ " \x7b") :=
    .between (by decide) fun _ => Validation.onOneLine_of_isLegal legal
  have rootNamed := named root (List.mem_of_getElem? rooted.placed)
  have methods :
      HaveLineTexts sameLine
        ((accessorsOf bundle).flatMap fun accessor => .blank :: accessor.lines) := by
    rw [accessorsOf_eq rooted]
    refine .flatMap (List.forall_mem_map.mpr fun pair member => ?_)
    obtain ⟨entryMember, nameMember⟩ := List.of_mem_zip member
    exact .blank (Accessor.haveLineTexts_ofEntry named rootNamed (parameters pair.1 entryMember)
      (accessors pair.2 nameMember))
  exact .plain (.constant (by decide)) (.block opening
    ((haveLineTexts_memberLines named).append methods) isLineText_closeBrace)

/-- The lines of a valid bundle have texts of lines. -/
theorem haveLineTexts_moduleLines
    {sourceSet : SourceSet}
    {root : Locale}
    {properties : List Properties.Property}
    {bundle : Bundle}
    (wellFormed : WellFormedBundle sourceSet root properties bundle)
    (onOneLine : sameLine → ∀ locale ∈ bundle.locales, Text.OnOneLine locale.tag.toList) :
    HaveLineTexts sameLine (moduleLines bundle) := by
  have isTarget := Validation.isTarget_of_checkTarget wellFormed.target
  have named : ∀ locale ∈ bundle.locales, HasLineNames sameLine locale :=
    fun locale member =>
      hasLineNames_of_isValid (wellFormed.wellFormedLocales.tags locale member)
        fun holds => onOneLine holds locale member
  have localeLines :=
    ((haveLineTexts_headerLines isTarget).append
      (haveLineTexts_localeTypeLines named isTarget.typeName)).append
      (haveLineTexts_localeMemberLines named).blank
  have typeBlock : HaveLineTexts sameLine (typeLines bundle.target.typeName) :=
    haveLineTexts_typeLines isTarget.typeName
  have implementation :=
    haveLineTexts_implementationLines wellFormed.rooted named isTarget.typeName
      (fun entry member => (wellFormed.entries entry member).parameters)
      (fun name member => (wellFormed.accessorNames name member).legal)
  have functions :
      ∀ pair ∈ bundle.locales.zip bundle.rules,
        HaveLineTexts sameLine (pluralFunctionLines pair.1 pair.2) := by
    intro pair member
    have isRule := (List.forall₂_iff_zip.mp wellFormed.rules).2 member
    exact haveLineTexts_pluralFunctionLines (named pair.1 (List.of_mem_zip member).1)
      (Plural.Rule.wellFormed_of_compile isRule.compiled).2
  exact ((localeLines.append typeBlock.blank).append implementation.blank).append
    (.flatMap functions)

/-! ## Indentation -/

/-- Whether the code of a bundle is indented by an outline of its lines: no line closes a block that
is not open and none is left open, each line is written where it stands in the outline, and what has
a text is indented by four spaces for each block around it. Where the tags of locales stay on one
line, these are the lines of the code as a text. -/
structure IsIndentedBy
    (bundle : Bundle)
    (outline : Outline) :
    Prop where
  lines : outline.lines = moduleLines bundle
  closesOpen :
    ∀ before text after,
      moduleLines bundle = before ++ .closing text :: after → 0 < levelPast 0 before
  closesAll : levelPast 0 (moduleLines bundle) = 0
  rendered : (render bundle).toList = writtenText (outline.placed 0)
  spaces :
    ∀ line ∈ outline.placed 0, line.text ≠ "" →
      (line.written.takeWhile (· == ' ')).length = 4 * line.depth
  physical :
    (∀ locale ∈ bundle.locales, Text.OnOneLine locale.tag.toList) →
      Text.physicalLines (render bundle).toList = (outline.placed 0).map PlacedLine.written

/-- The code of a valid bundle is indented by an outline. -/
theorem exists_isIndentedBy_of_validate
    {sourceSet : SourceSet}
    {tree : FileTree}
    {input output : Path}
    {bundle : Bundle}
    (validated : Validation.validate sourceSet tree input output = .ok bundle) :
    ∃ outline, IsIndentedBy bundle outline := by
  obtain ⟨root, _, _, _, _, wellFormed⟩ := Validation.wellFormed_of_validate validated
  have balanced := isBalanced_moduleLines bundle
  obtain ⟨outline, lines⟩ := Outline.exists_of_isBalanced balanced
  have texts := haveLineTexts_moduleLines wellFormed id
  -- A placed line has the text of one of the lines.
  have placedText :
      ∀ line ∈ outline.placed 0,
        line.text = "" ∨
          IsLineText (∀ locale ∈ bundle.locales, Text.OnOneLine locale.tag.toList) line.text := by
    intro line member
    have isText : line.text ∈ (outline.placed 0).map PlacedLine.text :=
      List.mem_map_of_mem member
    rw [outline.map_text_placed, lines] at isText
    obtain ⟨codeLine, codeMember, same⟩ := List.mem_map.mp isText
    exact same ▸ texts codeLine codeMember
  have rendered : (render bundle).toList = writtenText (outline.placed 0) := by
    rw [render, layout, ← lines, toList_layoutFrom_lines]
  refine ⟨outline, lines, ?_, balanced 0, rendered, ?_, ?_⟩
  · intro before text after shape
    exact IsBalanced.isOpen (shape ▸ balanced)
  · intro line member hasText
    exact length_takeWhile_written ((placedText line member).resolve_left hasText).lead
  · intro onOneLine
    rw [rendered]
    refine physicalLines_writtenText fun line member => ?_
    rcases placedText line member with isEmpty | isText
    · rw [isEmpty]
      decide
    · exact isText.onOneLine onOneLine

/-- A plural key that one of two locales overrides, and a key with an argument. -/
theorem exists_isIndentedBy_of_validate_two_locales :
    let sourceSet : SourceSet := {
      targetName := "Messages"
      locales := [⟨"fr", 2, "n > 1"⟩, ⟨"", 2, "n > 1"⟩]
    }
    let tree : FileTree := {
      nodes := [
        (["messages.properties"], .file "items=one|many\nkept=\x7b0:x\x7d c".toUTF8.data.toList),
        (["messages_fr.properties"], .file "items=un|plusieurs".toUTF8.data.toList)
      ]
    }
    ∃ bundle,
      Validation.validate sourceSet tree ⟨"."⟩ ⟨"out"⟩ = .ok bundle ∧
        ∃ outline,
          IsIndentedBy bundle outline ∧
            Text.physicalLines (render bundle).toList =
              (outline.placed 0).map PlacedLine.written := by
  intro sourceSet tree
  obtain ⟨bundle, validated⟩ : ∃ bundle,
      Validation.validate sourceSet tree ⟨"."⟩ ⟨"out"⟩ = .ok bundle :=
    Validation.exists_bundle_of_passesBeyondRules (by decide) (by decide +kernel)
  obtain ⟨outline, isIndented⟩ := exists_isIndentedBy_of_validate validated
  obtain ⟨_, _, _, _, _, wellFormed⟩ := Validation.wellFormed_of_validate validated
  refine ⟨bundle, validated, outline, isIndented, isIndented.physical ?_⟩
  rw [wellFormed.locales]
  decide

end Code

end Phrasebook
