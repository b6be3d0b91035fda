import Mathlib
import Phrasebook.Proofs.Catalog.Overrides
import Phrasebook.Proofs.Resources
import Phrasebook.Proofs.Validation.Locales
import Phrasebook.Proofs.Validation.Names
import Phrasebook.Proofs.Validation.Rules
import Phrasebook.Validation.Bundle

namespace Phrasebook

open Validation

/-!
# Valid bundles

What code generation may rely on. Problems are only listed while a bundle is put together, so each
property of a valid bundle goes back to a check that would have listed its absence.
-/

/-- An entry of a valid bundle, whose root locale is at an index. -/
structure WellFormedEntry
    (locales : List Locale)
    (rootIndex : Nat)
    (root : Locale)
    (entry : CatalogEntry) :
    Prop where
  rootVariants :
    entry.root.variants.length = entry.arity.expectedVariants root.pluralForms
  rootForms : entry.arity.isPlural → 2 ≤ root.pluralForms
  slots : entry.overrides.length = locales.length
  rootSlot : entry.overrides[rootIndex]? = some none
  overrideVariants :
    ∀ index locale message, locales[index]? = some locale →
      entry.override? index = some message →
      message.variants.length = entry.arity.expectedVariants locale.pluralForms
  gapless : entry.arguments.slots = entry.arguments.arguments.map some
  numbered :
    entry.arguments.arguments.map Placeholder.Argument.index =
      List.range entry.arguments.arguments.length
  distinct : (entry.arguments.arguments.map Placeholder.Argument.name).Nodup
  parameters :
    ∀ argument ∈ entry.arguments.arguments, IsParameter entry.arity argument
  rootRefersBelow : entry.root.RefersBelow entry.arguments.arguments.length
  overrideRefersBelow :
    ∀ index message, entry.override? index = some message →
      message.RefersBelow entry.arguments.arguments.length

/-- A valid bundle of a source set, for the declarations of its root file. -/
structure WellFormedBundle
    (sourceSet : SourceSet)
    (root : Locale)
    (properties : List Properties.Property)
    (bundle : Bundle) :
    Prop where
  locales : bundle.locales = sourceSet.locales
  wellFormedLocales : WellFormedLocales bundle.locales
  rooted : IsRootIndex bundle.locales bundle.catalog.rootIndex root
  rules : List.Forall₂ IsRuleOf bundle.locales bundle.rules
  declared :
    bundle.catalog.entries.map (fun entry => (entry.key, entry.line, entry.arity)) =
      properties.map fun property => (property.key, property.line, Catalog.arityOf property)
  keys : (bundle.catalog.entries.map fun entry => entry.key).Nodup
  named : ∀ entry ∈ bundle.catalog.entries, entry.key ≠ ""
  entries :
    ∀ entry ∈ bundle.catalog.entries,
      WellFormedEntry bundle.locales bundle.catalog.rootIndex root entry
  accessors :
    bundle.accessors =
      bundle.catalog.entries.map fun entry => sourceSet.naming.accessorName entry.key
  accessorNames : ∀ name ∈ bundle.accessors, IsAccessorName name
  accessorsDistinct : bundle.accessors.Nodup
  target : checkTarget sourceSet.targetName = .ok bundle.target

namespace Validation

/-! ## Entries -/

/-- The root variants of a sound declaration are as many as the root locale needs. -/
theorem rootVariants_of_soundRoot
    {sourceSet : SourceSet}
    {root : Locale}
    {property : Properties.Property}
    {entry : RootEntry}
    (sound : Catalog.SoundRoot sourceSet root property entry)
    (inhabited : 0 < property.variants.length)
    (arity : entry.arity = Catalog.arityOf property) :
    entry.root.variants.length = entry.arity.expectedVariants root.pluralForms ∧
      (entry.arity.isPlural → 2 ≤ root.pluralForms) := by
  have length := sound.variants.length_eq
  rw [List.length_map] at length
  have count := sound.arity
  rw [arity, ← length]
  unfold Catalog.arityOf Properties.Property.isPlural at count ⊢
  by_cases several : 1 < property.variants.length
  · simp only [several, decide_true, if_true] at count ⊢
    unfold Catalog.arityMessages at count
    simp only at count
    split at count
    · rename_i forms
      rw [forms] at several
      exact ⟨forms, fun _ => several⟩
    · cases count
  · simp only [several, decide_false] at count ⊢
    refine ⟨?_, by simp [Arity.isPlural]⟩
    simp only [Bool.false_eq_true, if_false, Arity.expectedVariants]
    omega

/-- The entry of a sound declaration whose argument names have been checked. -/
theorem wellFormedEntry_of_soundRoot
    {sourceSet : SourceSet}
    {resources : ResourceSet}
    {root : Locale}
    {property : Properties.Property}
    (aligned : resources.locales.length = sourceSet.locales.length)
    (rooted : IsRootIndex sourceSet.locales (Catalog.rootIndexOf sourceSet) root)
    (inhabited : 0 < property.variants.length)
    (sound :
      Catalog.SoundRoot sourceSet root property (Catalog.rootEntry sourceSet root property).1)
    (parameters :
      ∀ argument ∈ (Catalog.rootEntry sourceSet root property).1.arguments.arguments,
        IsParameter (Catalog.arityOf property) argument) :
    WellFormedEntry sourceSet.locales (Catalog.rootIndexOf sourceSet) root
      (Catalog.entryOf sourceSet resources root property) := by
  obtain ⟨rootVariants, rootForms⟩ := rootVariants_of_soundRoot sound inhabited rfl
  obtain ⟨gapless, distinct⟩ :=
    Placeholder.ArgumentTable.complete_of_checkComplete sound.complete
  have isOverride :
      ∀ {locale resource message},
        Catalog.overrideIn sourceSet locale resource
            (Catalog.rootEntry sourceSet root property).1 = some message →
          Catalog.IsOverride locale (Catalog.rootEntry sourceSet root property).1 message :=
    fun overrides =>
      Catalog.isOverride_of_overrideIn sound.arisen.wellFormed sound.complete overrides
  exact {
    rootVariants := rootVariants
    rootForms := rootForms
    slots := by simp [Catalog.overrides_entryOf aligned, aligned]
    rootSlot := by
      obtain ⟨inside, _⟩ := List.getElem?_eq_some_iff.mp rooted.placed
      obtain ⟨resource, found⟩ :
          ∃ resource, resources.locales[Catalog.rootIndexOf sourceSet]? = some resource :=
        ⟨_, List.getElem?_eq_getElem (aligned ▸ inside)⟩
      have pair :
          (sourceSet.locales.zip resources.locales)[Catalog.rootIndexOf sourceSet]? =
            some (root, resource) :=
        List.getElem?_zip_eq_some.mpr ⟨rooted.placed, found⟩
      rw [Catalog.overrides_entryOf aligned, List.getElem?_map, pair]
      simp [Catalog.overrideIn, rooted.isRoot]
    overrideVariants := by
      intro index locale message placed overridden
      obtain ⟨found, resource, foundAt, overrides⟩ :=
        Catalog.exists_overrideIn_of_override? overridden
      rw [placed] at foundAt
      cases foundAt
      exact (isOverride overrides).variants
    gapless := gapless
    numbered :=
      Placeholder.ArgumentTable.indices_of_complete sound.arisen.wellFormed sound.complete
    distinct := List.pairwise_map.mpr distinct
    parameters := parameters
    rootRefersBelow := sound.refersBelow
    overrideRefersBelow := by
      intro index message overridden
      obtain ⟨locale, resource, -, overrides⟩ :=
        Catalog.exists_overrideIn_of_override? overridden
      exact (isOverride overrides).refersBelow
  }

/-! ## Bundles -/

/-- A source set is validated just if it has one root locale, a root file that can be used, and no
check that lists a problem. -/
theorem validate_eq_ok_iff
    {sourceSet : SourceSet}
    {tree : FileTree}
    {input output : Path}
    {bundle : Bundle} :
    validate sourceSet tree input output = .ok bundle ↔
      ∃ root resources,
        sourceSet.root? = some root ∧
        ResourceSet.load sourceSet tree input = .ok resources ∧
        diagnostics sourceSet tree output resources (Catalog.build sourceSet resources) = [] ∧
        bundleOf? sourceSet output (Catalog.build sourceSet resources) = some bundle := by
  constructor
  · intro validated
    unfold validate at validated
    split at validated
    · cases validated
    · rename_i root single
      split at validated
      · cases validated
      · rename_i resources loaded
        simp only at validated
        split at validated
        · rename_i silent found
          cases validated
          exact ⟨root, resources, single, loaded, silent, found⟩
        · cases validated
  · rintro ⟨root, resources, single, loaded, silent, found⟩
    simp [validate, single, loaded, silent, found]

/-- Where no check lists a problem, nothing is missing for a bundle. -/
theorem exists_bundleOf?_of_silent
    {sourceSet : SourceSet}
    {tree : FileTree}
    {output : Path}
    {resources : ResourceSet}
    {catalog : Catalog}
    (silent : diagnostics sourceSet tree output resources catalog = []) :
    ∃ bundle, bundleOf? sourceSet output catalog = some bundle := by
  simp only [diagnostics, List.append_eq_nil_iff] at silent
  obtain ⟨⟨⟨⟨_, rulesSilent⟩, _⟩, _⟩, targetSilent⟩ := silent
  obtain ⟨rules, compiled⟩ := exists_rules_of_silent rulesSilent
  cases checked : checkTarget sourceSet.targetName with
  | error diagnostic =>
      rw [targetDiagnostics, checked] at targetSilent
      cases targetSilent
  | ok target =>
      rw [bundleOf?, checked, compiled]
      exact ⟨_, rfl⟩

theorem exists_bundle_of_silent
    {sourceSet : SourceSet}
    {tree : FileTree}
    {input output : Path}
    {root : Locale}
    {resources : ResourceSet}
    (single : sourceSet.root? = some root)
    (loaded : ResourceSet.load sourceSet tree input = .ok resources)
    (silent :
      diagnostics sourceSet tree output resources (Catalog.build sourceSet resources) = []) :
    ∃ bundle, validate sourceSet tree input output = .ok bundle := by
  obtain ⟨bundle, found⟩ := exists_bundleOf?_of_silent silent
  exact ⟨bundle, validate_eq_ok_iff.mpr ⟨root, resources, single, loaded, silent, found⟩⟩

/-- The rule of a single plural form is compiled for every locale. -/
theorem ruleOf_zero
    (tag : String) :
    ruleOf ⟨tag, 1, "0"⟩ = .ok ⟨tag, 1, "0", .literal 0 0, .integer⟩ := by
  cbv

theorem ruleDiagnostics_zero
    (tag : String) :
    ruleDiagnostics ⟨tag, 1, "0"⟩ = [] := by
  have inside :
      (⟨tag, 1, "0", .literal 0 0, .integer⟩ : Plural.Rule).firstOutOfRange? = none := by
    rw [Plural.Rule.firstOutOfRange?_eq_none_iff]
    intro quantity _
    rfl
  rw [ruleDiagnostics, ruleOf_zero]
  simp only [rangeDiagnostics, inside]
  rfl

/-- The rule that tells more than one from one is compiled for every locale. -/
theorem ruleOf_moreThanOne
    (tag : String) :
    ruleOf ⟨tag, 2, "n > 1"⟩ =
      .ok ⟨tag, 2, "n > 1", .binary 0 .greater (.variable 0 "n") (.literal 4 1), .boolean⟩ := by
  cbv

theorem ruleDiagnostics_moreThanOne
    (tag : String) :
    ruleDiagnostics ⟨tag, 2, "n > 1"⟩ = [] := by
  -- The tag is not looked at, so that one tag stands for all.
  have insideRoot :
      (⟨"", 2, "n > 1", .binary 0 .greater (.variable 0 "n") (.literal 4 1), .boolean⟩ :
        Plural.Rule).firstOutOfRange? = none := by
    decide +kernel
  have inside :
      (⟨tag, 2, "n > 1", .binary 0 .greater (.variable 0 "n") (.literal 4 1), .boolean⟩ :
        Plural.Rule).firstOutOfRange? = none :=
    insideRoot
  rw [ruleDiagnostics, ruleOf_moreThanOne]
  simp only [rangeDiagnostics, inside]
  rfl

/-- What a bundle without problems is put together from. -/
theorem parts_of_bundleOf?
    {sourceSet : SourceSet}
    {output : Path}
    {catalog : Catalog}
    {bundle : Bundle}
    (found : bundleOf? sourceSet output catalog = some bundle) :
    checkTarget sourceSet.targetName = .ok bundle.target ∧
      rules? sourceSet.locales = some bundle.rules ∧
      bundle.locales = sourceSet.locales ∧
      bundle.catalog = catalog ∧
      bundle.accessors = accessorNames sourceSet.naming catalog ∧
      bundle.artifact = artifactPath output bundle.target := by
  unfold bundleOf? at found
  split at found
  · rename_i target rules checked compiled
    cases found
    exact ⟨checked, compiled, rfl, rfl, rfl, rfl⟩
  · cases found

/-! ## Source sets whose rules are known -/

/-- Whether the rule of a locale is one of those that are known to pass every check: the only form
of one, and the second of two forms for more than one. -/
def HasKnownRule
    (locale : Locale) :
    Prop :=
  locale = ⟨locale.tag, 1, "0"⟩ ∨ locale = ⟨locale.tag, 2, "n > 1"⟩

instance
    (locale : Locale) :
    Decidable (HasKnownRule locale) :=
  inferInstanceAs (Decidable (_ ∨ _))

theorem HasKnownRule.ruleDiagnostics
    {locale : Locale}
    (known : HasKnownRule locale) :
    ruleDiagnostics locale = [] := by
  rcases known with single | moreThanOne
  · rw [single]
    exact ruleDiagnostics_zero locale.tag
  · rw [moreThanOne]
    exact ruleDiagnostics_moreThanOne locale.tag

/-- The problems of a source set, those of its rules apart. -/
def diagnosticsBeyondRules
    (sourceSet : SourceSet)
    (tree : FileTree)
    (output : Path)
    (resources : ResourceSet) :
    List Diagnostic :=
  let catalog := Catalog.build sourceSet resources
  localeDiagnostics sourceSet ++ resources.diagnostics ++ catalog.diagnostics ++
    nameDiagnostics sourceSet.naming resources.root.path catalog ++
    targetDiagnostics tree output sourceSet.targetName

/-- A source set with known rules is validated if nothing else is reported. -/
theorem exists_bundle_of_knownRules
    {sourceSet : SourceSet}
    {tree : FileTree}
    {input output : Path}
    {root : Locale}
    {resources : ResourceSet}
    (known : ∀ locale ∈ sourceSet.locales, HasKnownRule locale)
    (single : sourceSet.root? = some root)
    (loaded : ResourceSet.load sourceSet tree input = .ok resources)
    (silent : diagnosticsBeyondRules sourceSet tree output resources = []) :
    ∃ bundle,
      validate sourceSet tree input output = .ok bundle ∧
        bundleOf? sourceSet output (Catalog.build sourceSet resources) = some bundle := by
  simp only [diagnosticsBeyondRules, List.append_eq_nil_iff] at silent
  obtain ⟨⟨⟨⟨locales, files⟩, catalog⟩, names⟩, target⟩ := silent
  have rules : sourceSet.locales.flatMap ruleDiagnostics = [] :=
    List.flatMap_eq_nil_iff.mpr fun locale isMember => (known locale isMember).ruleDiagnostics
  have whole :
      diagnostics sourceSet tree output resources (Catalog.build sourceSet resources) = [] := by
    simp [diagnostics, locales, files, rules, catalog, names, target]
  obtain ⟨bundle, found⟩ := exists_bundleOf?_of_silent whole
  exact ⟨bundle, validate_eq_ok_iff.mpr ⟨root, resources, single, loaded, whole, found⟩, found⟩

/-- Whether a source set has one root locale, is loaded, and has no problems but those of its
rules. -/
def passesBeyondRules
    (sourceSet : SourceSet)
    (tree : FileTree)
    (input output : Path) :
    Bool :=
  match sourceSet.root?, ResourceSet.load sourceSet tree input with
  | some _, .ok resources => (diagnosticsBeyondRules sourceSet tree output resources).isEmpty
  | _, _ => false

theorem exists_bundle_of_passesBeyondRules
    {sourceSet : SourceSet}
    {tree : FileTree}
    {input output : Path}
    (known : ∀ locale ∈ sourceSet.locales, HasKnownRule locale)
    (passes : passesBeyondRules sourceSet tree input output) :
    ∃ bundle, validate sourceSet tree input output = .ok bundle := by
  unfold passesBeyondRules at passes
  split at passes
  · rename_i single loaded
    obtain ⟨bundle, validated, _⟩ :=
      exists_bundle_of_knownRules known single loaded (List.isEmpty_iff.mp passes)
    exact ⟨bundle, validated⟩
  · cases passes

/-! ## Well-formed bundles -/

/-- Checks without problems make a well-formed bundle. -/
theorem wellFormedBundle_of_silent
    {sourceSet : SourceSet}
    {tree : FileTree}
    {input output : Path}
    {root : Locale}
    {resources : ResourceSet}
    {bundle : Bundle}
    (single : sourceSet.root? = some root)
    (loaded : ResourceSet.load sourceSet tree input = .ok resources)
    (silent :
      diagnostics sourceSet tree output resources (Catalog.build sourceSet resources) = [])
    (found : bundleOf? sourceSet output (Catalog.build sourceSet resources) = some bundle) :
    WellFormedBundle sourceSet root resources.root.properties bundle := by
  simp only [diagnostics, List.append_eq_nil_iff] at silent
  obtain ⟨⟨⟨⟨⟨localesSilent, _⟩, rulesSilent⟩, catalogSilent⟩, namesSilent⟩, _⟩ := silent
  obtain ⟨target, compiled, locales, catalog, accessors, _⟩ := parts_of_bundleOf? found
  have rooted := isRootIndex_of_root? single
  have wellFormedLocales := wellFormedLocales_of_silent localesSilent
  obtain ⟨aligned, other, otherMember, otherRoot, bytes, _, readAs⟩ :=
    ResourceSet.load_eq_ok loaded
  have declared := Properties.wellDeclared_of_readBytes readAs
  have entries := Catalog.entries_build resources rooted.placed
  obtain ⟨names, parameters, distinct, _⟩ := names_of_silent_after namesSilent
  have rootIndex : bundle.catalog.rootIndex = Catalog.rootIndexOf sourceSet := by
    rw [catalog, Catalog.rootIndex_build resources rooted.placed]
  rw [entries] at parameters
  have accessorList :
      bundle.accessors =
        bundle.catalog.entries.map fun entry => sourceSet.naming.accessorName entry.key := by
    rw [accessors, catalog]
    rfl
  exact {
    locales := locales
    wellFormedLocales := locales ▸ wellFormedLocales
    rooted := by
      rw [rootIndex, locales]
      exact rooted
    rules := by
      rw [locales]
      exact rules_of_silent wellFormedLocales.forms rulesSilent compiled
    declared := by
      rw [catalog, entries, List.map_map]
      rfl
    keys := by
      rw [catalog, entries, List.map_map]
      exact List.pairwise_map.mpr declared.distinct
    named := by
      intro entry member
      rw [catalog, entries] at member
      obtain ⟨property, propertyMember, rfl⟩ := List.mem_map.mp member
      exact declared.named property propertyMember
    entries := by
      intro entry member
      rw [catalog, entries] at member
      obtain ⟨property, propertyMember, rfl⟩ := List.mem_map.mp member
      rw [rootIndex, locales]
      have keySilent :
          ∀ diagnostic ∈ (Catalog.build sourceSet resources).diagnostics,
            diagnostic.key ≠ some property.key := by
        rw [catalogSilent]
        simp
      exact wellFormedEntry_of_soundRoot aligned rooted
        (declared.inhabited property propertyMember)
        (Catalog.soundRoot_of_silent rooted.placed propertyMember keySilent)
        (parameters _ member)
    accessors := accessorList
    accessorNames := by
      intro name member
      rw [accessorList, catalog] at member
      obtain ⟨entry, entryMember, rfl⟩ := List.mem_map.mp member
      exact names entry entryMember
    accessorsDistinct := by
      rw [accessorList, catalog]
      exact distinct
    target := target
  }

/-- A source set is validated only into a well-formed bundle, whose entries are the declarations of
the file at the path of its only root locale. -/
theorem wellFormed_of_validate
    {sourceSet : SourceSet}
    {tree : FileTree}
    {input output : Path}
    {bundle : Bundle}
    (validated : validate sourceSet tree input output = .ok bundle) :
    ∃ root bytes properties,
      tree.read (ResourceSet.filePath sourceSet input root) = .ok bytes ∧
      Properties.readBytes bytes = .ok properties ∧
      WellFormedBundle sourceSet root properties bundle := by
  obtain ⟨root, resources, single, loaded, silent, found⟩ := validate_eq_ok_iff.mp validated
  obtain ⟨_, other, otherMember, otherRoot, bytes, bytesRead, readAs⟩ :=
    ResourceSet.load_eq_ok loaded
  have wellFormed := wellFormedBundle_of_silent single loaded silent found
  have same : other = root := by
    have rooted := isRootIndex_of_root? single
    obtain ⟨position, placed⟩ := List.mem_iff_getElem?.mp otherMember
    have index := rooted.only position other placed otherRoot
    rw [index, rooted.placed] at placed
    cases placed
    rfl
  subst same
  exact ⟨other, bytes, resources.root.properties, bytesRead, readAs, wellFormed⟩

/-- A plural key with an argument, overridden in a locale that stands before the root locale. -/
theorem wellFormed_of_validate_two_locales :
    let sourceSet : SourceSet := {
      targetName := "Messages"
      locales := [⟨"fr", 2, "n > 1"⟩, ⟨"", 2, "n > 1"⟩]
    }
    let tree : FileTree := {
      nodes := [
        (["messages.properties"], .file "a=\x7b0:b\x7d|c".toUTF8.data.toList),
        (["messages_fr.properties"], .file "a=d|\x7bb\x7d".toUTF8.data.toList)
      ]
    }
    ∃ bundle,
      validate sourceSet tree ⟨"."⟩ ⟨"out"⟩ = .ok bundle ∧
      ∃ root bytes properties,
        tree.read (ResourceSet.filePath sourceSet ⟨"."⟩ root) = .ok bytes ∧
        Properties.readBytes bytes = .ok properties ∧
        WellFormedBundle sourceSet root properties bundle := by
  intro sourceSet tree
  obtain ⟨bundle, validated⟩ : ∃ bundle, validate sourceSet tree ⟨"."⟩ ⟨"out"⟩ = .ok bundle :=
    exists_bundle_of_passesBeyondRules (by decide) (by decide +kernel)
  exact ⟨bundle, validated, wellFormed_of_validate validated⟩

end Validation

end Phrasebook
