import Phrasebook.Code.Render
import Phrasebook.Proofs.Code.Accessor
import Phrasebook.Proofs.Validation.Bundle

namespace Phrasebook

namespace Code

/-!
# The names in an accessor

The body of an accessor refers to the parameters of the accessor and calls plural functions. The
parameters have distinct names, but an argument may bear the name of a plural function that the body
calls, which is then hidden: nothing but the name of the quantity is checked against the names of
arguments.
-/

/-! ## Functions that are called -/

/-- The plural function that a selection calls. -/
def Selection.callee? :
    Selection →
    Option String
  | .always _ => none
  | .byForm function _ _ => some function

/-- The selections among which a body chooses. -/
def AccessorBody.selections :
    AccessorBody →
    List Selection
  | .unconditional selection => [selection]
  | .byLocale arms => arms.map Prod.snd

/-- The plural functions that a body calls. -/
def AccessorBody.callees
    (body : AccessorBody) :
    List String :=
  body.selections.filterMap Selection.callee?

/-- A plural function is called for a plural message of several variants. -/
theorem Selection.callee?_ofMessage
    (entry : CatalogEntry)
    (message : Message)
    (locale : Locale) :
    (ofMessage entry message locale).callee? =
      if entry.arity.isPlural ∧ 2 ≤ message.variants.length then
        some (pluralFunction locale)
      else
        none := by
  obtain ⟨variants⟩ := message
  match variants with
  | [] =>
      simp [ofMessage, callee?]
  | [only] =>
      simp [ofMessage, callee?]
  | first :: second :: further =>
      cases isPlural : entry.arity.isPlural with
      | true =>
          simp [ofMessage, callee?, isPlural, List.getLast?_cons]
      | false =>
          simp [ofMessage, callee?, isPlural, List.getLast?_cons]

/-- A body chooses among the selections of all locales. -/
theorem AccessorBody.mem_selections_ofEntry
    {locales : List Locale}
    {rootIndex : Nat}
    {root : Locale}
    {entry : CatalogEntry}
    {selection : Selection}
    (rooted : Validation.IsRootIndex locales rootIndex root)
    (wellFormed : WellFormedEntry locales rootIndex root entry) :
    selection ∈ (ofEntry locales root entry).selections ↔
      ∃ index locale,
        locales[index]? = some locale ∧
        selection = selectionIn root entry locale (entry.override? index) := by
  unfold ofEntry
  split
  · rename_i only
    -- The only locale is the root locale, which does not override anything.
    have placed := rooted.placed
    rw [List.getElem?_singleton] at placed
    split at placed
    · rename_i first
      cases placed
      have noOverride : entry.override? 0 = none := by
        rw [CatalogEntry.override?, ← first, wellFormed.rootSlot]
        rfl
      rw [selections, List.mem_singleton]
      constructor
      · rintro rfl
        exact ⟨0, root, rfl, by rw [noOverride]; rfl⟩
      · rintro ⟨index, locale, found, rfl⟩
        rw [List.getElem?_singleton] at found
        split at found
        · rename_i here
          cases found
          rw [here, noOverride]
          rfl
        · cases found
    · cases placed
  · rw [selections, List.map_map, List.mem_map]
    constructor
    · rintro ⟨⟨locale, index⟩, isMember, rfl⟩
      exact ⟨index, locale, List.mem_zipIdx_iff_getElem?.mp isMember, rfl⟩
    · rintro ⟨index, locale, found, rfl⟩
      exact ⟨(locale, index), List.mem_zipIdx_iff_getElem?.mpr found, rfl⟩

/-- Whether a name is that of a plural function that decides the variant of an entry in some locale:
that of the root locale, or of a locale with several plural forms that overrides the message. -/
def IsDecidingFunction
    (locales : List Locale)
    (root : Locale)
    (entry : CatalogEntry)
    (name : String) :
    Prop :=
  name = pluralFunction root ∨
    ∃ index locale,
      locales[index]? = some locale ∧
      (entry.override? index).isSome ∧
      2 ≤ locale.pluralForms ∧
      name = pluralFunction locale

/-- The body of an accessor calls the deciding functions of a plural key. -/
theorem AccessorBody.mem_callees_ofEntry
    {locales : List Locale}
    {rootIndex : Nat}
    {root : Locale}
    {entry : CatalogEntry}
    (rooted : Validation.IsRootIndex locales rootIndex root)
    (wellFormed : WellFormedEntry locales rootIndex root entry)
    (name : String) :
    name ∈ (ofEntry locales root entry).callees ↔
      entry.arity.isPlural ∧ IsDecidingFunction locales root entry name := by
  have variants (forms : Nat) (isPlural : entry.arity.isPlural) :
      entry.arity.expectedVariants forms = forms := by
    cases arity : entry.arity with
    | singular =>
        rw [arity] at isPlural
        cases isPlural
    | plural found =>
        rfl
  have calledIn (index : Nat) (locale : Locale) (placed : locales[index]? = some locale) :
      (selectionIn root entry locale (entry.override? index)).callee? = some name ↔
        entry.arity.isPlural ∧
          ((entry.override? index = none ∧ name = pluralFunction root) ∨
            ((entry.override? index).isSome ∧ 2 ≤ locale.pluralForms ∧
              name = pluralFunction locale)) := by
    cases overridden : entry.override? index with
    | none =>
        simp only [selectionIn, messageIn, Selection.callee?_ofMessage, wellFormed.rootVariants]
        by_cases isPlural : entry.arity.isPlural
        · simp [isPlural, variants _ isPlural, wellFormed.rootForms isPlural, eq_comm]
        · simp [isPlural]
    | some message =>
        have count := wellFormed.overrideVariants index locale message placed overridden
        simp only [selectionIn, messageIn, Selection.callee?_ofMessage, count]
        by_cases isPlural : entry.arity.isPlural
        · by_cases several : 2 ≤ locale.pluralForms
          · simp [isPlural, variants _ isPlural, several, eq_comm]
          · simp [isPlural, variants _ isPlural, several]
        · simp [isPlural]
  simp only [callees, List.mem_filterMap, mem_selections_ofEntry rooted wellFormed]
  constructor
  · rintro ⟨_, ⟨index, locale, placed, rfl⟩, called⟩
    obtain ⟨isPlural, decides⟩ := (calledIn index locale placed).mp called
    rcases decides with ⟨_, ofRoot⟩ | ⟨overridden, several, ofLocale⟩
    · exact ⟨isPlural, .inl ofRoot⟩
    · exact ⟨isPlural, .inr ⟨index, locale, placed, overridden, several, ofLocale⟩⟩
  · rintro ⟨isPlural, ofRoot | ⟨index, locale, placed, overridden, several, ofLocale⟩⟩
    · have noOverride : entry.override? rootIndex = none := by
        rw [CatalogEntry.override?, wellFormed.rootSlot]
        rfl
      exact ⟨_, ⟨rootIndex, root, rooted.placed, rfl⟩,
        (calledIn rootIndex root rooted.placed).mpr ⟨isPlural, .inl ⟨noOverride, ofRoot⟩⟩⟩
    · exact ⟨_, ⟨index, locale, placed, rfl⟩,
        (calledIn index locale placed).mpr ⟨isPlural, .inr ⟨overridden, several, ofLocale⟩⟩⟩

/-! ## Parameters -/

theorem names_parametersOf
    (entry : CatalogEntry) :
    (Accessor.parametersOf entry).map Parameter.name =
      (declaredOf entry).map Generated.Declared.name := by
  rw [names_declaredOf, Accessor.parametersOf, List.map_append, List.map_map]
  split <;> rfl

theorem pluralFunction_ne_quantityParameter
    (locale : Locale) :
    pluralFunction locale ≠ Validation.quantityParameter := by
  intro same
  have first : (pluralFunction locale).toList.head? = some 'p' := by
    rw [pluralFunction, String.toList_append]
    rfl
  rw [same] at first
  revert first
  decide

/-- Which names of an accessor are kept apart: its parameters have distinct names, the quantity of a
plural key among them, and the body of a plural key calls its deciding functions, so that a
parameter hides one of them just if an argument bears its name. -/
structure KeepsNamesApart
    (locales : List Locale)
    (root : Locale)
    (entry : CatalogEntry)
    (accessor : Accessor) :
    Prop where
  distinct : (accessor.parameters.map Parameter.name).Nodup
  quantity :
    entry.arity.isPlural →
      ∃ arguments,
        accessor.parameters = ⟨Validation.quantityParameter, "i64"⟩ :: arguments ∧
        ∀ parameter ∈ arguments, parameter.name ≠ Validation.quantityParameter
  called :
    ∀ name,
      name ∈ accessor.body.callees ↔
        entry.arity.isPlural ∧ IsDecidingFunction locales root entry name
  hidden :
    (∃ parameter ∈ accessor.parameters, parameter.name ∈ accessor.body.callees) ↔
      entry.arity.isPlural ∧
        ∃ argument ∈ entry.arguments.arguments,
          IsDecidingFunction locales root entry argument.name

theorem keepsNamesApart_ofEntry
    {locales : List Locale}
    {rootIndex : Nat}
    {root : Locale}
    {entry : CatalogEntry}
    (rooted : Validation.IsRootIndex locales rootIndex root)
    (wellFormed : WellFormedEntry locales rootIndex root entry)
    (name : String) :
    KeepsNamesApart locales root entry (Accessor.ofEntry locales root entry name) where
  distinct := by
    rw [Accessor.ofEntry, names_parametersOf]
    exact nodup_names_declaredOf wellFormed
  quantity := by
    intro isPlural
    refine ⟨entry.arguments.arguments.map fun argument => ⟨argument.name, argument.type.code⟩,
      ?_, ?_⟩
    · simp [Accessor.ofEntry, Accessor.parametersOf, isPlural]
    · intro parameter isMember
      obtain ⟨argument, inArguments, rfl⟩ := List.mem_map.mp isMember
      exact (wellFormed.parameters argument inArguments).noQuantity isPlural
  called := AccessorBody.mem_callees_ofEntry rooted wellFormed
  hidden := by
    have called := AccessorBody.mem_callees_ofEntry rooted wellFormed
    constructor
    · rintro ⟨parameter, isMember, isCalled⟩
      obtain ⟨isPlural, decides⟩ := (called parameter.name).mp isCalled
      refine ⟨isPlural, ?_⟩
      simp only [Accessor.ofEntry, Accessor.parametersOf, isPlural, if_true, List.singleton_append,
        List.mem_cons, List.mem_map] at isMember
      rcases isMember with rfl | ⟨argument, inArguments, rfl⟩
      · rcases decides with ofRoot | ⟨_, locale, _, _, _, ofLocale⟩
        · exact absurd ofRoot.symm (pluralFunction_ne_quantityParameter root)
        · exact absurd ofLocale.symm (pluralFunction_ne_quantityParameter locale)
      · exact ⟨argument, inArguments, decides⟩
    · rintro ⟨isPlural, argument, inArguments, decides⟩
      refine ⟨⟨argument.name, argument.type.code⟩, ?_,
        (called argument.name).mpr ⟨isPlural, decides⟩⟩
      exact List.mem_append_right _ (List.mem_map_of_mem inArguments)

/-- The accessors of a valid bundle keep all names apart but those of arguments and plural
functions. -/
theorem keepNamesApart_of_validate
    {sourceSet : SourceSet}
    {tree : FileTree}
    {input output : Path}
    {bundle : Bundle}
    (validated : Validation.validate sourceSet tree input output = .ok bundle) :
    ∃ root,
      bundle.locales[bundle.catalog.rootIndex]? = some root ∧
      List.Forall₂ (KeepsNamesApart bundle.locales root) bundle.catalog.entries
        (accessorsOf bundle) := by
  obtain ⟨root, resources, single, loaded, silent, found⟩ :=
    Validation.validate_eq_ok_iff.mp validated
  have wellFormed := Validation.wellFormedBundle_of_silent single loaded silent found
  have accessors :
      accessorsOf bundle =
        bundle.catalog.entries.map fun entry =>
          Accessor.ofEntry bundle.locales root entry (sourceSet.naming.accessorName entry.key) := by
    rw [accessorsOf, wellFormed.rooted.placed, wellFormed.accessors]
    simp only
    rw [← List.map_prod_left_eq_zip, List.map_map]
    rfl
  refine ⟨root, wellFormed.rooted.placed, ?_⟩
  rw [accessors, List.forall₂_map_right_iff, List.forall₂_same]
  exact fun entry isMember =>
    keepsNamesApart_ofEntry wellFormed.rooted (wellFormed.entries entry isMember) _

/-- A plural key with an argument, overridden in a locale that decides between its variants by a
rule of its own. -/
theorem keepNamesApart_of_validate_two_locales :
    let sourceSet : SourceSet := {
      targetName := "Messages"
      locales := [⟨"fr", 2, "n > 1"⟩, ⟨"", 2, "n > 1"⟩]
    }
    let tree : FileTree := {
      nodes := [
        (["messages.properties"], .file "a=\x7b0:b\x7d|c".toUTF8.data.toList),
        (["messages_fr.properties"], .file "a=d|\x7bb\x7d".toUTF8.data.toList)
      ]
    }
    ∃ bundle,
      Validation.validate sourceSet tree ⟨"."⟩ ⟨"out"⟩ = .ok bundle ∧
      ∃ root,
        bundle.locales[bundle.catalog.rootIndex]? = some root ∧
        List.Forall₂ (KeepsNamesApart bundle.locales root) bundle.catalog.entries
          (accessorsOf bundle) := by
  intro sourceSet tree
  obtain ⟨bundle, validated⟩ : ∃ bundle,
      Validation.validate sourceSet tree ⟨"."⟩ ⟨"out"⟩ = .ok bundle :=
    Validation.exists_bundle_of_passesBeyondRules (by decide) (by decide +kernel)
  exact ⟨bundle, validated, keepNamesApart_of_validate validated⟩

/-- An argument of a plural key that is called like the plural function of the root locale is
accepted, and hides the function that the body calls. -/
theorem argument_hides_plural_function :
    let sourceSet : SourceSet := {
      targetName := "Messages"
      locales := [⟨"", 2, "n > 1"⟩]
    }
    let tree : FileTree := {
      nodes := [
        (["messages.properties"],
          .file "items=\x7b0:plural_form_root\x7d a|b".toUTF8.data.toList)
      ]
    }
    ∃ bundle,
      Validation.validate sourceSet tree ⟨"."⟩ ⟨"out"⟩ = .ok bundle ∧
      ∃ accessor ∈ accessorsOf bundle, ∃ parameter ∈ accessor.parameters,
        parameter.name ∈ accessor.body.callees := by
  intro sourceSet tree
  let root : ResourceFile :=
    ⟨"", ⟨"./messages.properties"⟩, [⟨"items", ["\x7b0:plural_form_root\x7d a", "b"], 1⟩]⟩
  let resources : ResourceSet := ⟨root, [.loaded root], []⟩
  have loaded : ResourceSet.load sourceSet tree ⟨"."⟩ = .ok resources := by decide +kernel
  obtain ⟨bundle, validated, found⟩ : ∃ bundle,
      Validation.validate sourceSet tree ⟨"."⟩ ⟨"out"⟩ = .ok bundle ∧ _ :=
    Validation.exists_bundle_of_knownRules (by decide) rfl loaded (by decide +kernel)
  obtain ⟨_, _, locales, catalog, accessors, _⟩ := Validation.parts_of_bundleOf? found
  refine ⟨bundle, validated, ?_⟩
  rw [accessorsOf, locales, catalog, accessors]
  decide +kernel

end Code

end Phrasebook
