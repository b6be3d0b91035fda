import Phrasebook.Proofs.Code.Acceptance

namespace Phrasebook.Code

open Generated

/-!
# Rendered modules

The code of a valid bundle is read as one module, if it is accepted as one. In each locale its
accessors give the variant that the catalog and the plural rules ask for, and its plural form is
that of the rule of the locale.
-/

/-! ## Names in the module -/

/-- A name that is declared once is found. -/
theorem only?_of_mem
    {functions : List Function}
    {function : Function}
    (distinct : (functions.map Function.name).Nodup)
    (member : function ∈ functions) :
    only? functions function.name = some function := by
  have single : functions.filter (·.name == function.name) = [function] := by
    induction functions with
    | nil =>
        cases member
    | cons first rest inductionHypothesis =>
        rw [List.map_cons, List.nodup_cons] at distinct
        obtain ⟨fresh, furtherDistinct⟩ := distinct
        rcases List.mem_cons.mp member with rfl | later
        · have noOther : rest.filter (·.name == function.name) = [] := by
            refine List.filter_eq_nil_iff.mpr fun other otherMember same => fresh ?_
            exact List.mem_map.mpr ⟨other, otherMember, beq_iff_eq.mp same⟩
          rw [List.filter_cons_of_pos (by simp), noOther]
        · have apart : first.name ≠ function.name := fun same =>
            fresh (List.mem_map.mpr ⟨function, later, same.symm⟩)
          rw [List.filter_cons_of_neg (by simpa using apart)]
          exact inductionHypothesis furtherDistinct later
  rw [only?, single]

theorem functions_moduleOf
    (bundle : Bundle)
    (root : Locale) :
    (moduleOf bundle root).functions =
      (bundle.locales.zip bundle.rules).map fun (locale, rule) =>
        pluralFunctionOf locale rule := by
  simp [moduleOf, Module.functions, List.filterMap_map]

theorem members_moduleOf
    {bundle : Bundle}
    (root : Locale)
    (apart : bundle.target.typeName ≠ Validation.localeTagType) :
    (moduleOf bundle root).members bundle.target.typeName = membersOf bundle root := by
  simp [moduleOf, Module.members, List.flatMap_map, apart.symm]

/-- Locales differ in the names of their plural functions. -/
theorem nodup_pluralFunctions
    {bundle : Bundle}
    {root : Locale}
    (renderable : IsRenderable bundle root) :
    ((moduleOf bundle root).functions.map Function.name).Nodup := by
  have names :
      (moduleOf bundle root).functions.map Function.name =
        bundle.locales.map pluralFunction := by
    rw [functions_moduleOf, List.map_map]
    conv_rhs => rw [← renderable.fst_rulePairs, List.map_map]
    rfl
  rw [names]
  refine List.pairwise_map.mpr
    (renderable.locales.variants.imp_of_mem fun firstMember secondMember differs same => ?_)
  exact differs
    (Locale.variantName_of_pluralFunction (renderable.named _ firstMember)
      (renderable.named _ secondMember) same)

theorem nodup_members
    {bundle : Bundle}
    {root : Locale}
    (renderable : IsRenderable bundle root) :
    ((membersOf bundle root).map Function.name).Nodup := by
  have names :
      (membersOf bundle root).map Function.name =
        Validation.reservedMembers ++ bundle.accessors := by
    conv_rhs => rw [← renderable.snd_accessorPairs]
    unfold membersOf
    rw [List.map_append, List.map_map]
    rfl
  rw [names, List.nodup_append]
  refine ⟨by decide, renderable.distinct, fun reserved isReserved name member same => ?_⟩
  exact (renderable.accessors name member).unreserved (same ▸ isReserved)

/-! ## Calls -/

/-- The fields of a value of the generated type in a locale. -/
def receiverIn
    (locale : Locale) :
    List (String × Value) :=
  [(localeField, .variant (localePath locale))]

/-- The plural function of a locale returns the index that its rule computes. -/
theorem call_pluralFunction
    {bundle : Bundle}
    {root locale : Locale}
    {rule : Plural.Rule}
    {position : Nat}
    (renderable : IsRenderable bundle root)
    (compilable : IsCompilable bundle)
    (placed : bundle.locales[position]? = some locale)
    (rulePlaced : bundle.rules[position]? = some rule)
    (depth : Nat)
    (quantity : Int64) :
    (moduleOf bundle root).call (depth + 1) (pluralFunction locale) [.integer quantity] =
      .ok (.integer (rule.evaluate quantity)) := by
  have pair : (bundle.locales.zip bundle.rules)[position]? = some (locale, rule) :=
    List.getElem?_zip_eq_some.mpr ⟨placed, rulePlaced⟩
  have member := List.mem_of_getElem? pair
  have isRule := (List.forall₂_iff_zip.mp renderable.rules).2 member
  have declared : pluralFunctionOf locale rule ∈ (moduleOf bundle root).functions := by
    rw [functions_moduleOf]
    exact List.mem_map.mpr ⟨(locale, rule), member, rfl⟩
  have found :
      only? (moduleOf bundle root).functions (pluralFunction locale) =
        some (pluralFunctionOf locale rule) :=
    only?_of_mem (nodup_pluralFunctions renderable) declared
  have fits := compilable.rules rule (List.mem_of_getElem? rulePlaced)
  rw [Module.call, found]
  exact run_pluralFunctionOf isRule fits _ quantity

/-- A method of the generated type is called where it is the one of its name. -/
theorem callMethod_moduleOf
    {bundle : Bundle}
    {root : Locale}
    {method : Function}
    (renderable : IsRenderable bundle root)
    (member : method ∈ membersOf bundle root)
    (hasReceiver : method.hasReceiver)
    (depth : Nat)
    (fields : List (String × Value))
    (values : List Value) :
    (moduleOf bundle root).callMethod depth bundle.target.typeName fields method.name values =
      method.run ((moduleOf bundle root).call depth) fields values := by
  have found := only?_of_mem (nodup_members renderable) member
  rw [Module.callMethod, members_moduleOf root renderable.target.apart, found]
  exact if_pos hasReceiver

/-- What the module of a bundle does in the locale at a position, given the rule of the root
locale. -/
structure AnswersIn
    (bundle : Bundle)
    (module : Module)
    (rootRule : Plural.Rule)
    (position : Nat)
    (locale : Locale)
    (rule : Plural.Rule) :
    Prop where
  pluralForm :
    ∀ (depth : Nat) (quantity : Int64),
      module.callMethod (depth + 1) bundle.target.typeName (receiverIn locale) "plural_form"
          [.integer quantity] =
        .ok (.integer (rule.evaluate quantity))
  accessor :
    ∀ (entryPosition : Nat) (entry : CatalogEntry) (depth : Nat) (quantity : Int64)
      (values : List Value),
      bundle.catalog.entries[entryPosition]? = some entry →
      values.length = entry.arguments.arguments.length →
      ∃ (name : String) (pieces : List Placeholder.Piece) (value : Value),
        bundle.accessors[entryPosition]? = some name ∧
        variantIn? entry position (rule.evaluate quantity) (rootRule.evaluate quantity) =
          some pieces ∧
        IsStringOf entry.arguments pieces value ∧
        module.callMethod (depth + 1) bundle.target.typeName (receiverIn locale) name
            (valuesWith entry quantity values) =
          .ok value

theorem callMethod_pluralForm
    {bundle : Bundle}
    {root locale : Locale}
    {rule : Plural.Rule}
    {position : Nat}
    (renderable : IsRenderable bundle root)
    (compilable : IsCompilable bundle)
    (placed : bundle.locales[position]? = some locale)
    (rulePlaced : bundle.rules[position]? = some rule)
    (depth : Nat)
    (quantity : Int64) :
    (moduleOf bundle root).callMethod (depth + 1) bundle.target.typeName (receiverIn locale)
        "plural_form" [.integer quantity] =
      .ok (.integer (rule.evaluate quantity)) := by
  have member : pluralFormMethod bundle.locales ∈ membersOf bundle root := by
    simp [membersOf]
  have tagged :
      (receiverIn locale).lookup localeField = some (.variant (localePath locale)) :=
    rfl
  have called := callMethod_moduleOf renderable member rfl (depth + 1) (receiverIn locale)
    [.integer quantity]
  exact called.trans
    (run_pluralFormMethod renderable.locales.variants placed tagged
      (call_pluralFunction renderable compilable placed rulePlaced depth quantity))

/-- The accessor of an entry evaluates the string expression of the variant that is asked for. -/
theorem callMethod_accessor
    {bundle : Bundle}
    {root locale : Locale}
    {rule rootRule : Plural.Rule}
    {position entryPosition : Nat}
    {entry : CatalogEntry}
    {name : String}
    {values : List Value}
    (renderable : IsRenderable bundle root)
    (compilable : IsCompilable bundle)
    (placed : bundle.locales[position]? = some locale)
    (rulePlaced : bundle.rules[position]? = some rule)
    (rootRulePlaced : bundle.rules[bundle.catalog.rootIndex]? = some rootRule)
    (entryPlaced : bundle.catalog.entries[entryPosition]? = some entry)
    (namePlaced : bundle.accessors[entryPosition]? = some name)
    (keeps : KeepsPluralFunctions entry)
    (count : values.length = entry.arguments.arguments.length)
    (depth : Nat)
    (quantity : Int64) :
    ∃ pieces value,
      variantIn? entry position (rule.evaluate quantity) (rootRule.evaluate quantity) =
        some pieces ∧
      IsStringOf entry.arguments pieces value ∧
      (moduleOf bundle root).callMethod (depth + 1) bundle.target.typeName (receiverIn locale)
          name (valuesWith entry quantity values) =
        .ok value := by
  have entryMember := List.mem_of_getElem? entryPlaced
  have wellFormed := renderable.entries entry entryMember
  have member : methodOf bundle.locales root entry name ∈ membersOf bundle root := by
    refine List.mem_append_right _ (List.mem_map.mpr ⟨(entry, name), ?_, rfl⟩)
    exact List.mem_of_getElem? (List.getElem?_zip_eq_some.mpr ⟨entryPlaced, namePlaced⟩)
  have rootSlot : entry.override? bundle.catalog.rootIndex = none := by
    rw [CatalogEntry.override?, wellFormed.rootSlot]
    rfl
  have selects :=
    PieceBody.selectsAt_ofEntry renderable.locales renderable.rooted rootSlot placed
  have called := callMethod_moduleOf renderable member rfl (depth + 1) (receiverIn locale)
    (valuesWith entry quantity values)
  have fits : (valuesWith entry quantity values).length = (declaredOf entry).length := by
    unfold valuesWith declaredOf
    split <;> simp [count]
  have tagged :
      (receiverIn locale).lookup localeField = some (.variant (localePath locale)) :=
    rfl
  -- The message is that of the locale or that of the root locale, and so is its rule.
  obtain ⟨message, origin, form, same, variant, expected, formCalled⟩ :
      ∃ message origin form,
        PieceSelection.inLocale root entry position locale =
          .ofMessage entry message origin ∧
        variantIn? entry position (rule.evaluate quantity) (rootRule.evaluate quantity) =
          variantFor? message form ∧
        (∃ locale ∈ bundle.locales,
          message.variants.length = entry.arity.expectedVariants locale.pluralForms) ∧
        (moduleOf bundle root).call (depth + 1) (pluralFunction origin) [.integer quantity] =
          .ok (.integer form) := by
    cases overridden : entry.override? position with
    | some message =>
        refine ⟨message, locale, rule.evaluate quantity, ?_, ?_,
          expected_of_override? wellFormed overridden,
          call_pluralFunction renderable compilable placed rulePlaced depth quantity⟩
        · rw [PieceSelection.inLocale, overridden]
        · rw [variantIn?, overridden]
    | none =>
        refine ⟨entry.root, root, rootRule.evaluate quantity, ?_, ?_,
          renderable.expectedRoot entryMember,
          call_pluralFunction renderable compilable renderable.rooted.placed rootRulePlaced depth
            quantity⟩
        · rw [PieceSelection.inLocale, overridden]
        · rw [variantIn?, overridden]
  have chosen :=
    PieceSelection.variantFor?_eq_piecesAt origin form
      (inhabited_of_expected renderable.locales expected) (isPlural_of_several expected)
  rw [same] at selects
  have accepted : (methodOf bundle.locales root entry name).isAccepted :=
    (isAccepted_methodOf_iff _ root name (nodup_names_declaredOf wellFormed)).mpr
      (compilable.arguments entry entryMember)
  have run :=
    run_methodOf name accepted fits selects tagged
      (PieceSelection.asks_ofMessage message values keeps formCalled)
  exact ⟨_, _, variant.trans chosen, isStringOf_textOf _ _, called.trans run⟩

/-- A bundle that is validated can be rendered, if the tags of its locales are plain. -/
theorem isRenderable_of_wellFormedBundle
    {sourceSet : SourceSet}
    {root : Locale}
    {properties : List Properties.Property}
    {bundle : Bundle}
    (wellFormed : WellFormedBundle sourceSet root properties bundle)
    (plain : ∀ locale ∈ bundle.locales, IsPlainTag locale.tag) :
    IsRenderable bundle root where
  target := Validation.isTarget_of_checkTarget wellFormed.target
  locales := wellFormed.wellFormedLocales
  rooted := wellFormed.rooted
  named := fun locale member =>
    Locale.isNamed_of_isValid (plain locale member) (wellFormed.wellFormedLocales.tags locale member)
  rules := wellFormed.rules
  entries := wellFormed.entries
  aligned := by
    rw [wellFormed.accessors, List.length_map]
  accessors := wellFormed.accessorNames
  distinct := wellFormed.accessorsDistinct

/-- The code of a bundle is read as a module that declares its locales and answers in each of them
as the catalog and the plural rules say. -/
def AnswersEverywhere
    (bundle : Bundle) :
    Prop :=
  ∃ (module : Module) (root : Locale) (rootRule : Plural.Rule),
    Module.read (render bundle) = some module ∧
    .enumeration Validation.localeTagType (bundle.locales.map Locale.variantName) ∈
      module.items ∧
    Validation.IsRootIndex bundle.locales bundle.catalog.rootIndex root ∧
    bundle.rules[bundle.catalog.rootIndex]? = some rootRule ∧
    ∀ (position : Nat) (locale : Locale),
      bundle.locales[position]? = some locale →
      ∃ rule,
        bundle.rules[position]? = some rule ∧
        Validation.IsRuleOf locale rule ∧
        AnswersIn bundle module rootRule position locale rule

/-- Rules stand where their locales stand. -/
theorem exists_rule_of_locale
    {bundle : Bundle}
    {root locale : Locale}
    {position : Nat}
    (renderable : IsRenderable bundle root)
    (placed : bundle.locales[position]? = some locale) :
    ∃ rule,
      bundle.rules[position]? = some rule ∧ Validation.IsRuleOf locale rule := by
  have inside : position < bundle.rules.length := by
    rw [← renderable.rules.length_eq]
    exact (List.getElem?_eq_some_iff.mp placed).1
  have rulePlaced : bundle.rules[position]? = some bundle.rules[position] :=
    List.getElem?_eq_getElem inside
  have pair :
      (bundle.locales.zip bundle.rules)[position]? = some (locale, bundle.rules[position]) :=
    List.getElem?_zip_eq_some.mpr ⟨placed, rulePlaced⟩
  have member := List.mem_of_getElem? pair
  exact ⟨_, rulePlaced, (List.forall₂_iff_zip.mp renderable.rules).2 member⟩

theorem exists_isRenderable_of_validate
    {sourceSet : SourceSet}
    {tree : FileTree}
    {input output : Path}
    {bundle : Bundle}
    (validated : Validation.validate sourceSet tree input output = .ok bundle)
    (plain : ∀ locale ∈ bundle.locales, IsPlainTag locale.tag) :
    ∃ root, IsRenderable bundle root := by
  obtain ⟨root, resources, single, loaded, silent, found⟩ :=
    Validation.validate_eq_ok_iff.mp validated
  have wellFormed := Validation.wellFormedBundle_of_silent single loaded silent found
  exact ⟨root, isRenderable_of_wellFormedBundle wellFormed plain⟩

/-- The code of a bundle that can be compiled answers in every locale. -/
theorem answersEverywhere_of_isCompilable
    {bundle : Bundle}
    {root : Locale}
    (renderable : IsRenderable bundle root)
    (compilable : IsCompilable bundle)
    (keeps : ∀ entry ∈ bundle.catalog.entries, KeepsPluralFunctions entry) :
    AnswersEverywhere bundle := by
  obtain ⟨rootRule, rootRulePlaced, _⟩ :=
    exists_rule_of_locale renderable renderable.rooted.placed
  have read : Module.read (render bundle) = some (moduleOf bundle root) := by
    rw [read_render renderable, if_pos ((isAccepted_moduleOf_iff renderable).mpr compilable)]
  refine ⟨moduleOf bundle root, root, rootRule, read, by simp [moduleOf],
    renderable.rooted, rootRulePlaced, fun position locale placed => ?_⟩
  obtain ⟨rule, rulePlaced, isRule⟩ := exists_rule_of_locale renderable placed
  refine ⟨rule, rulePlaced, isRule, ?_, ?_⟩
  · exact callMethod_pluralForm renderable compilable placed rulePlaced
  · intro entryPosition entry depth quantity values entryPlaced count
    have inside : entryPosition < bundle.accessors.length := by
      rw [renderable.aligned]
      exact (List.getElem?_eq_some_iff.mp entryPlaced).1
    have namePlaced : bundle.accessors[entryPosition]? = some bundle.accessors[entryPosition] :=
      List.getElem?_eq_getElem inside
    have entryKeeps := keeps entry (List.mem_of_getElem? entryPlaced)
    obtain ⟨pieces, value, chosen, isString, called⟩ :=
      callMethod_accessor renderable compilable placed rulePlaced rootRulePlaced entryPlaced
        namePlaced entryKeeps count depth quantity
    exact ⟨_, pieces, value, namePlaced, chosen, isString, called⟩

/-- Code that answers has been accepted. -/
theorem isCompilable_of_answersEverywhere
    {bundle : Bundle}
    {root : Locale}
    (renderable : IsRenderable bundle root)
    (answers : AnswersEverywhere bundle) :
    IsCompilable bundle := by
  obtain ⟨module, _, _, read, _⟩ := answers
  rw [read_render renderable] at read
  split at read
  · rename_i accepted
    exact (isAccepted_moduleOf_iff renderable).mp accepted
  · cases read

/-- Just if a validated bundle can be compiled, its accessors give in every locale the variant that
is asked for: of the message of that locale by its own rule, or else of the root message by the rule
of the root locale. -/
theorem answersEverywhere_iff_of_validate
    {sourceSet : SourceSet}
    {tree : FileTree}
    {input output : Path}
    {bundle : Bundle}
    (validated : Validation.validate sourceSet tree input output = .ok bundle)
    (plain : ∀ locale ∈ bundle.locales, IsPlainTag locale.tag)
    (keeps : ∀ entry ∈ bundle.catalog.entries, KeepsPluralFunctions entry) :
    AnswersEverywhere bundle ↔ IsCompilable bundle := by
  obtain ⟨root, renderable⟩ := exists_isRenderable_of_validate validated plain
  exact ⟨isCompilable_of_answersEverywhere renderable,
    fun compilable => answersEverywhere_of_isCompilable renderable compilable keeps⟩

/-- The rules that are known have no literal without room. -/
theorem literalsFit_of_hasKnownRule
    {locale : Locale}
    {rule : Plural.Rule}
    (known : Validation.HasKnownRule locale)
    (isRule : Validation.IsRuleOf locale rule) :
    rule.literalsFit := by
  have compiled : Validation.ruleOf locale = .ok rule := isRule.compiled
  rcases known with single | moreThanOne
  · rw [single, Validation.ruleOf_zero, Except.ok.injEq] at compiled
    subst compiled
    rfl
  · rw [moreThanOne, Validation.ruleOf_moreThanOne, Except.ok.injEq] at compiled
    subst compiled
    rfl

theorem IsRenderable.literalsFit
    {bundle : Bundle}
    {root : Locale}
    (renderable : IsRenderable bundle root)
    (known : ∀ locale ∈ bundle.locales, Validation.HasKnownRule locale) :
    ∀ rule ∈ bundle.rules, rule.literalsFit := by
  rw [← renderable.snd_rulePairs, List.forall_mem_map]
  intro pair member
  exact literalsFit_of_hasKnownRule (known pair.1 (List.of_mem_zip member).1)
    ((List.forall₂_iff_zip.mp renderable.rules).2 member)

/-- Of two plural keys with an argument, one is overridden in the locale before the root locale and
one is not. -/
theorem answersEverywhere_iff_of_validate_two_locales :
    let sourceSet : SourceSet := {
      targetName := "Messages"
      locales := [⟨"fr", 1, "0"⟩, ⟨"", 2, "n > 1"⟩]
    }
    let tree : FileTree := {
      nodes := [
        (["messages.properties"], .file "a=\x7b0:b\x7d|c\ne=f|g".toUTF8.data.toList),
        (["messages_fr.properties"], .file "a=\x7bb\x7d".toUTF8.data.toList)
      ]
    }
    ∃ bundle,
      Validation.validate sourceSet tree ⟨"."⟩ ⟨"out"⟩ = .ok bundle ∧
      (∀ locale ∈ bundle.locales, IsPlainTag locale.tag) ∧
      (∀ entry ∈ bundle.catalog.entries, KeepsPluralFunctions entry) ∧
      (AnswersEverywhere bundle ↔ IsCompilable bundle) ∧
      AnswersEverywhere bundle := by
  intro sourceSet tree
  let root : ResourceFile :=
    ⟨"", ⟨"./messages.properties"⟩, [⟨"a", ["\x7b0:b\x7d", "c"], 1⟩, ⟨"e", ["f", "g"], 2⟩]⟩
  let other : ResourceFile :=
    ⟨"fr", ⟨"./messages_fr.properties"⟩, [⟨"a", ["\x7bb\x7d"], 1⟩]⟩
  let resources : ResourceSet := ⟨root, [.loaded other, .loaded root], []⟩
  have known : ∀ locale ∈ sourceSet.locales, Validation.HasKnownRule locale := by decide
  have loaded : ResourceSet.load sourceSet tree ⟨"."⟩ = .ok resources := by decide +kernel
  obtain ⟨bundle, validated, found⟩ : ∃ bundle,
      Validation.validate sourceSet tree ⟨"."⟩ ⟨"out"⟩ = .ok bundle ∧ _ :=
    Validation.exists_bundle_of_knownRules known rfl loaded (by decide +kernel)
  obtain ⟨target, _, locales, catalog, _, _⟩ := Validation.parts_of_bundleOf? found
  have plain : ∀ locale ∈ bundle.locales, IsPlainTag locale.tag := by
    rw [locales]
    decide
  have keeps : ∀ entry ∈ bundle.catalog.entries, KeepsPluralFunctions entry := by
    rw [catalog]
    decide +kernel
  have answers := answersEverywhere_iff_of_validate validated plain keeps
  have typeName : bundle.target.typeName = "Messages" := by
    have same : Validation.checkTarget "Messages" = .ok ⟨[], "Messages"⟩ := by decide +kernel
    rw [same, Except.ok.injEq] at target
    rw [← target]
  obtain ⟨_, renderable⟩ := exists_isRenderable_of_validate validated plain
  have compilable : IsCompilable bundle := by
    refine ⟨?_, ?_, renderable.literalsFit (locales ▸ known)⟩
    · rw [typeName]
      exact fun standard => absurd standard (by decide)
    · rw [catalog]
      decide +kernel
  exact ⟨bundle, validated, plain, keeps, answers, answers.mpr compilable⟩

/-- A generated type that is called `String` passes every check, and takes the place of the type
that its accessor returns. -/
theorem generated_type_hides_string :
    let sourceSet : SourceSet := { targetName := "String", locales := [⟨"", 1, "0"⟩] }
    let tree : FileTree := { nodes := [(["messages.properties"], .file "a=b".toUTF8.data.toList)] }
    ∃ bundle,
      Validation.validate sourceSet tree ⟨"."⟩ ⟨"out"⟩ = .ok bundle ∧
      (∀ locale ∈ bundle.locales, IsPlainTag locale.tag) ∧
      (∀ entry ∈ bundle.catalog.entries, KeepsPluralFunctions entry) ∧
      ¬AnswersEverywhere bundle := by
  intro sourceSet tree
  let root : ResourceFile := ⟨"", ⟨"./messages.properties"⟩, [⟨"a", ["b"], 1⟩]⟩
  let resources : ResourceSet := ⟨root, [.loaded root], []⟩
  have loaded : ResourceSet.load sourceSet tree ⟨"."⟩ = .ok resources := by decide +kernel
  obtain ⟨bundle, validated, found⟩ : ∃ bundle,
      Validation.validate sourceSet tree ⟨"."⟩ ⟨"out"⟩ = .ok bundle ∧ _ :=
    Validation.exists_bundle_of_knownRules (by decide) rfl loaded (by decide +kernel)
  obtain ⟨target, _, locales, catalog, _, _⟩ := Validation.parts_of_bundleOf? found
  have plain : ∀ locale ∈ bundle.locales, IsPlainTag locale.tag := by
    rw [locales]
    decide
  have keeps : ∀ entry ∈ bundle.catalog.entries, KeepsPluralFunctions entry := by
    rw [catalog]
    decide +kernel
  have standard : bundle.target.typeName ∈ standardTypes := by
    have same : Validation.checkTarget "String" = .ok ⟨[], "String"⟩ := by decide +kernel
    rw [same, Except.ok.injEq] at target
    rw [← target]
    decide
  refine ⟨bundle, validated, plain, keeps, fun answers => ?_⟩
  obtain ⟨_, renderable⟩ := exists_isRenderable_of_validate validated plain
  have empty := ((isCompilable_of_answersEverywhere renderable answers).type standard).2
  have message : (Catalog.build sourceSet resources).entries ≠ [] := by decide +kernel
  rw [catalog] at empty
  exact message empty

end Phrasebook.Code
