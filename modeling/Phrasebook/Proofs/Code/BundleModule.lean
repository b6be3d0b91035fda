import Phrasebook.Proofs.Code.Items

namespace Phrasebook.Code

open Generated

/-!
# Modules of bundles

The code of a valid bundle has the lexemes of one module, and they are read as its items: the
locales, their tags, the generated type with its members, and the plural functions.
-/

/-! ## Bundles that can be read back -/

/-- What rendering relies on: names that are legal and apart, and messages with variants. -/
structure IsRenderable
    (bundle : Bundle)
    (root : Locale) :
    Prop where
  target : Validation.IsTarget bundle.target
  locales : Validation.WellFormedLocales bundle.locales
  rooted : Validation.IsRootIndex bundle.locales bundle.catalog.rootIndex root
  named : ∀ locale ∈ bundle.locales, locale.IsNamed
  rules : List.Forall₂ Validation.IsRuleOf bundle.locales bundle.rules
  entries :
    ∀ entry ∈ bundle.catalog.entries,
      WellFormedEntry bundle.locales bundle.catalog.rootIndex root entry
  aligned : bundle.accessors.length = bundle.catalog.entries.length
  accessors : ∀ name ∈ bundle.accessors, Validation.IsAccessorName name
  distinct : bundle.accessors.Nodup

/-- Every message of an entry of a valid bundle has as many variants as are expected of some
locale. -/
theorem expected_of_override?
    {locales : List Locale}
    {rootIndex position : Nat}
    {root : Locale}
    {entry : CatalogEntry}
    {message : Message}
    (wellFormed : WellFormedEntry locales rootIndex root entry)
    (overridden : entry.override? position = some message) :
    ∃ locale ∈ locales,
      message.variants.length = entry.arity.expectedVariants locale.pluralForms := by
  have slot : entry.overrides[position]? = some (some message) :=
    Option.join_eq_some_iff.mp overridden
  have inside : position < locales.length := by
    rw [← wellFormed.slots]
    exact (List.getElem?_eq_some_iff.mp slot).1
  have placed : locales[position]? = some locales[position] := List.getElem?_eq_getElem inside
  exact ⟨_, List.mem_of_getElem? placed,
    wellFormed.overrideVariants position _ message placed overridden⟩

theorem inhabited_of_expected
    {locales : List Locale}
    {arity : Arity}
    {message : Message}
    (wellFormed : Validation.WellFormedLocales locales)
    (expected :
      ∃ locale ∈ locales,
        message.variants.length = arity.expectedVariants locale.pluralForms) :
    message.variants ≠ [] := by
  obtain ⟨locale, member, length⟩ := expected
  refine List.ne_nil_of_length_pos ?_
  rw [length]
  cases arity with
  | singular =>
      exact Nat.one_pos
  | plural variants =>
      exact wellFormed.forms locale member

theorem isPlural_of_several
    {locales : List Locale}
    {arity : Arity}
    {message : Message}
    (expected :
      ∃ locale ∈ locales,
        message.variants.length = arity.expectedVariants locale.pluralForms)
    (several : 1 < message.variants.length) :
    arity.isPlural := by
  obtain ⟨locale, _, length⟩ := expected
  cases arity with
  | singular =>
      rw [length] at several
      exact absurd several (Nat.lt_irrefl 1)
  | plural variants =>
      rfl

namespace IsRenderable

variable {bundle : Bundle} {root : Locale}

theorem rootMember
    (renderable : IsRenderable bundle root) :
    root ∈ bundle.locales :=
  List.mem_of_getElem? renderable.rooted.placed

theorem expectedRoot
    {entry : CatalogEntry}
    (renderable : IsRenderable bundle root)
    (member : entry ∈ bundle.catalog.entries) :
    ∃ locale ∈ bundle.locales,
      entry.root.variants.length = entry.arity.expectedVariants locale.pluralForms :=
  ⟨root, renderable.rootMember, (renderable.entries entry member).rootVariants⟩

theorem hasVariants
    {entry : CatalogEntry}
    (renderable : IsRenderable bundle root)
    (member : entry ∈ bundle.catalog.entries) :
    HasVariants entry :=
  ⟨inhabited_of_expected renderable.locales (renderable.expectedRoot member),
    fun _ _ overridden =>
      inhabited_of_expected renderable.locales
        (expected_of_override? (renderable.entries entry member) overridden)⟩

end IsRenderable

/-! ## The module of a bundle -/

/-- The names of the accessors with their entries. -/
def accessorPairs
    (bundle : Bundle) :
    List (CatalogEntry × String) :=
  bundle.catalog.entries.zip bundle.accessors

/-- The members of the generated type. -/
def membersOf
    (bundle : Bundle)
    (root : Locale) :
    List Function :=
  (valueMethods ++ [pluralFormMethod bundle.locales]) ++
    (accessorPairs bundle).map fun (entry, name) => methodOf bundle.locales root entry name

/-- The lexemes of the members of the generated type. -/
def memberLexemes
    (bundle : Bundle)
    (root : Locale) :
    List Lexeme :=
  (valueMethodLexemes ++ pluralFormMethodLexemes bundle.locales) ++
    (accessorPairs bundle).flatMap fun (entry, name) =>
      accessorLexemes bundle.locales root entry name

/-- The attribute of the implementation of the generated type. -/
def allowance :
    List Lexeme :=
  [.mark .hash, .mark .openBracket, .name "allow", .mark .openParenthesis,
    .name "non_snake_case", .mark .closeParenthesis, .mark .closeBracket]

/-- The lexemes of the implementation of the generated type. -/
def implementationLexemes
    (bundle : Bundle)
    (root : Locale) :
    List Lexeme :=
  allowance ++
    ([.keyword .implementation, .name bundle.target.typeName, .mark .openBrace] ++
      (memberLexemes bundle root ++ [.mark .closeBrace]))

/-- The lexemes of the module of a bundle. -/
def moduleLexemes
    (bundle : Bundle)
    (root : Locale) :
    List Lexeme :=
  (((localeTypeLexemes bundle.locales ++ localeMemberLexemes bundle.locales) ++
        typeDeclarationLexemes bundle.target.typeName) ++
      implementationLexemes bundle root) ++
    (bundle.locales.zip bundle.rules).flatMap fun (locale, rule) =>
      pluralFunctionLexemes locale rule

/-- The module of a bundle. -/
def moduleOf
    (bundle : Bundle)
    (root : Locale) :
    Module where
  items :=
    ((([.enumeration Validation.localeTagType (bundle.locales.map Locale.variantName)] ++
            [.implementation Validation.localeTagType [tagTextMethod bundle.locales]]) ++
          [.record bundle.target.typeName [localeDeclared]]) ++
        [.implementation bundle.target.typeName (membersOf bundle root)]) ++
      (bundle.locales.zip bundle.rules).map fun (locale, rule) =>
        .function (pluralFunctionOf locale rule)

theorem spellsLines_headerLines
    {target : TargetName}
    (isTarget : Validation.IsTarget target) :
    SpellsLines (headerLines target) [] := by
  have generated : IsComment "// @generated by staticbundle. Do not edit by hand." :=
    ⟨by decide, by decide⟩
  have lead : IsComment "// Message source `" := ⟨by decide, by decide⟩
  have source : IsComment ("// Message source `" ++ target.display ++ "`.") :=
    (lead.append isTarget.onOneLine_display).append (by decide)
  have blank : SpellsLines [.blank] [] := SpellsLines.nil.blank
  exact (blank.comment source).comment generated

theorem memberLines_eq
    (locales : List Locale) :
    memberLines locales =
      valueMethodLines ++
        .blank :: .plain "/// Plural form index of `n` in the current locale." ::
          block "pub fn plural_form(&self, n: i64) -> i64 \x7b" (pluralFormLines locales)
            "\x7d" := by
  simp [memberLines, valueMethodLines, Validation.localeTagType]

theorem accessorsOf_eq
    {bundle : Bundle}
    {root : Locale}
    (rooted : Validation.IsRootIndex bundle.locales bundle.catalog.rootIndex root) :
    accessorsOf bundle =
      (accessorPairs bundle).map fun (entry, name) =>
        Accessor.ofEntry bundle.locales root entry name := by
  unfold accessorsOf
  rw [rooted.placed]
  rfl

theorem spellsLines_implementationLines
    {bundle : Bundle}
    {root : Locale}
    (renderable : IsRenderable bundle root) :
    SpellsLines (implementationLines bundle) (implementationLexemes bundle root) := by
  have attributeSpelled : Spells "#[allow(non_snake_case)]".toList allowance := by decide
  have keyword : Completes "impl ".toList [.keyword .implementation] := by decide
  have brace : Completes (' ' :: "\x7b".toList) [.mark .openBrace] := by decide
  have opening :
      Spells ("impl " ++ bundle.target.typeName ++ " \x7b").toList
        [.keyword .implementation, .name bundle.target.typeName, .mark .openBrace] := by
    simpa [String.toList_append] using
      (keyword.name renderable.target.typeName (by decide) brace).spells
  have accessors :
      SpellsLines
        ((accessorPairs bundle).flatMap fun (entry, name) =>
          .blank :: (Accessor.ofEntry bundle.locales root entry name).lines)
        ((accessorPairs bundle).flatMap fun (entry, name) =>
          accessorLexemes bundle.locales root entry name) := by
    refine .flatMap fun pair member => ?_
    obtain ⟨entryMember, nameMember⟩ := List.of_mem_zip member
    exact (spellsLines_accessor (renderable.named root renderable.rootMember) renderable.named
      (renderable.accessors pair.2 nameMember).legal
      (renderable.entries pair.1 entryMember).parameters
      (renderable.hasVariants entryMember)).blank
  have members :=
    (spellsLines_valueMethodLines.append
      (spellsLines_pluralFormMethod renderable.named).blank).append accessors
  have item :
      SpellsLines (.plain "#[allow(non_snake_case)]" :: _) (implementationLexemes bundle root) :=
    (SpellsLines.braced opening members).cons attributeSpelled
  unfold implementationLines
  rw [memberLines_eq, accessorsOf_eq renderable.rooted, List.flatMap_map]
  exact item

/-- The code of a bundle has the lexemes of its module. -/
theorem spells_render
    {bundle : Bundle}
    {root : Locale}
    (renderable : IsRenderable bundle root) :
    Spells (render bundle).toList (moduleLexemes bundle root) := by
  have functions :
      SpellsLines
        ((bundle.locales.zip bundle.rules).flatMap fun (locale, rule) =>
          pluralFunctionLines locale rule)
        ((bundle.locales.zip bundle.rules).flatMap fun (locale, rule) =>
          pluralFunctionLexemes locale rule) := by
    refine .flatMap fun pair member => ?_
    have localeMember := (List.of_mem_zip member).1
    have isRule := (List.forall₂_iff_zip.mp renderable.rules).2 member
    have nonnegative := (Plural.Rule.wellFormed_of_compile isRule.compiled).2
    exact spellsLines_pluralFunctionLines (renderable.named pair.1 localeMember) nonnegative
  have typeName := renderable.target.typeName
  have lines :=
    (((((spellsLines_headerLines renderable.target).append
                (spellsLines_localeTypeLines renderable.named typeName)).append
              (spellsLines_localeMemberLines renderable.named).blank).append
            (spellsLines_typeLines typeName).blank).append
          (spellsLines_implementationLines renderable).blank).append functions
  exact lines.spells_layout

/-- The attribute of the implementation of the generated type stands before it. -/
theorem skipAttribute_allowance
    (rest : List Lexeme) :
    skipAttribute (allowance ++ rest) = some rest := by
  have inner : Balanced [.name "non_snake_case"] := .singleton rfl
  have inside :
      Balanced [.mark .openParenthesis, .name "non_snake_case", .mark .closeParenthesis] :=
    .group rfl inner .nil
  have taken := inside.takeGroup .closeBracket rfl rest
  have allows : attributes.contains "allow" := by decide
  simp only [allowance, List.cons_append, List.nil_append] at taken ⊢
  rw [skipAttribute, if_pos allows, taken]
  rfl

theorem isMembers_memberLexemes
    (bundle : Bundle)
    (root : Locale) :
    IsMembers (memberLexemes bundle root) (membersOf bundle root) :=
  (isMembers_valueMethodLexemes.append (isMembers_pluralFormMethodLexemes bundle.locales)).append
    (.flatMap fun pair _ => isMembers_accessorLexemes bundle.locales root pair.1 pair.2)

/-- The lexemes of the module of a bundle are read as its items. -/
theorem readItems_moduleLexemes
    (bundle : Bundle)
    (root : Locale) :
    readItems (moduleLexemes bundle root) = some (moduleOf bundle root).items := by
  have implementation :
      IsItems (implementationLexemes bundle root)
        [.implementation bundle.target.typeName (membersOf bundle root)] := by
    refine .attributed skipAttribute_allowance fun rest => ?_
    have read :=
      readBareItem_implementation bundle.target.typeName (isMembers_memberLexemes bundle root)
        rest
    simpa [skipExport] using read
  have functions :
      IsItems
        ((bundle.locales.zip bundle.rules).flatMap fun (locale, rule) =>
          pluralFunctionLexemes locale rule)
        ((bundle.locales.zip bundle.rules).map fun (locale, rule) =>
          .function (pluralFunctionOf locale rule)) :=
    .flatMap fun pair _ => isItems_pluralFunctionLexemes pair.1 pair.2
  exact ((((isItems_localeTypeLexemes bundle.locales).append
            (isItems_localeMemberLexemes bundle.locales)).append
          (isItems_typeDeclarationLexemes bundle.target.typeName)).append
        implementation).append functions |>.readItems

/-- The code of a bundle is read as its module, if the module is accepted. -/
theorem read_render
    {bundle : Bundle}
    {root : Locale}
    (renderable : IsRenderable bundle root) :
    Module.read (render bundle) =
      if (moduleOf bundle root).isAccepted then
        some (moduleOf bundle root)
      else
        none := by
  have spelled := spells_render renderable
  unfold Spells at spelled
  simp [Module.read, spelled, readItems_moduleLexemes]

end Phrasebook.Code
