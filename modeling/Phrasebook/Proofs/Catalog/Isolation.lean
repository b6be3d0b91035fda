import Phrasebook.Proofs.Catalog.Accounting

namespace Phrasebook.Catalog

/-!
# Locales do not interfere

What a locale adds to a catalog is settled by the root declarations, its own setting and file, the
transformer and the fallback policy. Other locales may come, go, change places or change their
files: they move the place of a locale, but neither its overrides nor its problems, and they leave
what the root file says about each key as it is.
-/

/-! ## What each part of a catalog depends on -/

theorem transformed_congr
    {first second : SourceSet}
    (transformer : first.transformer = second.transformer) :
    first.transformed = second.transformed := by
  funext variant
  rw [SourceSet.transformed, SourceSet.transformed, transformer]

/-- What a root declaration says about its key depends on the declaration and the transformer
only. -/
theorem rootEntry_congr
    {first second : SourceSet}
    (transformer : first.transformer = second.transformer)
    (firstRoot secondRoot : Locale)
    (property : Properties.Property) :
    (rootEntry first firstRoot property).1 = (rootEntry second secondRoot property).1 := by
  simp only [rootEntry, transformed_congr transformer]

/-- The problems of a root declaration depend, besides, on the number of plural forms. -/
theorem rootDiagnostics_congr
    {first second : SourceSet}
    {firstRoot secondRoot : Locale}
    (transformer : first.transformer = second.transformer)
    (tag : firstRoot.tag = secondRoot.tag)
    (forms : firstRoot.pluralForms = secondRoot.pluralForms)
    (file : ResourceFile)
    (property : Properties.Property) :
    rootDiagnostics first firstRoot file property =
      rootDiagnostics second secondRoot file property := by
  have messages :
      (rootEntry first firstRoot property).2 = (rootEntry second secondRoot property).2 := by
    simp only [rootEntry, arityMessages, transformed_congr transformer, forms]
  have diagnostic :
      keyDiagnostic firstRoot file property.key (some property.line) =
        keyDiagnostic secondRoot file property.key (some property.line) := by
    funext message
    rw [keyDiagnostic, keyDiagnostic, tag]
  rw [rootDiagnostics, rootDiagnostics, messages, diagnostic]

theorem overrideOf_congr
    {first second : SourceSet}
    {firstLocale secondLocale : Locale}
    (transformer : first.transformer = second.transformer)
    (forms : firstLocale.pluralForms = secondLocale.pluralForms)
    (entry : RootEntry)
    (property : Properties.Property) :
    overrideOf first firstLocale entry property =
      overrideOf second secondLocale entry property := by
  simp only [overrideOf, transformed_congr transformer, forms]

/-- The override of a key depends on the setting and the file of its locale, what the root file says
about the key, and the transformer. -/
theorem overrideIn_congr
    {first second : SourceSet}
    {firstLocale secondLocale : Locale}
    (transformer : first.transformer = second.transformer)
    (tag : firstLocale.tag = secondLocale.tag)
    (forms : firstLocale.pluralForms = secondLocale.pluralForms)
    (resource : LocaleResource)
    (entry : RootEntry) :
    overrideIn first firstLocale resource entry =
      overrideIn second secondLocale resource entry := by
  unfold overrideIn
  rw [Locale.isRoot_congr tag]
  simp only [overrideOf_congr transformer forms]

/-- The problems of a locale depend on its setting and its file, what the root file says about each
key, the transformer and the fallback policy. -/
theorem localeDiagnostics_congr
    {first second : SourceSet}
    {firstLocale secondLocale : Locale}
    (transformer : first.transformer = second.transformer)
    (fallback : first.fallback = second.fallback)
    (tag : firstLocale.tag = secondLocale.tag)
    (forms : firstLocale.pluralForms = secondLocale.pluralForms)
    (entries : List RootEntry)
    (resource : LocaleResource) :
    localeDiagnostics first entries firstLocale resource =
      localeDiagnostics second entries secondLocale resource := by
  have diagnostic : keyDiagnostic firstLocale = keyDiagnostic secondLocale := by
    funext file key line message
    rw [keyDiagnostic, keyDiagnostic, tag]
  have ofEntry (file : ResourceFile) :
      entryDiagnostics first firstLocale file = entryDiagnostics second secondLocale file := by
    funext entry
    simp only [entryDiagnostics, missingKeyDiagnostics, fallback, diagnostic,
      overrideOf_congr transformer forms]
  unfold localeDiagnostics
  rw [Locale.isRoot_congr tag]
  simp only [ofEntry, extraDiagnostics, missingFile, diagnostic, fallback, tag]

/-- Every problem that a locale contributes names the locale. -/
theorem locale_of_mem_localeDiagnostics
    {sourceSet : SourceSet}
    {entries : List RootEntry}
    {locale : Locale}
    {resource : LocaleResource}
    {diagnostic : Diagnostic}
    (listed : diagnostic ∈ localeDiagnostics sourceSet entries locale resource) :
    diagnostic.locale = some locale.tag := by
  unfold localeDiagnostics at listed
  split at listed
  · cases listed
  · cases resource with
    | loaded file =>
        rcases List.mem_append.mp listed with ofEntries | ofExtra
        · obtain ⟨entry, _, ofEntry⟩ := List.mem_flatMap.mp ofEntries
          exact (isProblemOf_of_mem_entryDiagnostics ofEntry).namesLocale
        · unfold extraDiagnostics at ofExtra
          split at ofExtra
          · cases ofExtra
          · obtain ⟨property, _, rfl⟩ := List.mem_map.mp ofExtra
            rfl
    | missing path =>
        simp only at listed
        split at listed
        · cases listed
        · rw [List.mem_singleton] at listed
          subst listed
          rfl
    | broken path =>
        cases listed

/-! ## Two catalogs -/

/-- Whether two source sets have the same root declarations, transform messages alike and allow
locales to deviate alike. -/
structure HaveSameBasis
    (first second : SourceSet)
    (firstResources secondResources : ResourceSet) :
    Prop where
  declarations : firstResources.root.properties = secondResources.root.properties
  transformer : first.transformer = second.transformer
  fallback : first.fallback = second.fallback

/-- Whether a locale and what was found for it stand at some place. -/
structure StandsAt
    (sourceSet : SourceSet)
    (resources : ResourceSet)
    (index : Nat)
    (locale : Locale)
    (resource : LocaleResource) :
    Prop where
  locale : sourceSet.locales[index]? = some locale
  resource : resources.locales[index]? = some resource

/-- Whether the problems of a catalog are those of the root declarations, all of the root locale,
and then what the locales contribute, each of them its own problems only. -/
structure ListsByLocale
    (sourceSet : SourceSet)
    (resources : ResourceSet)
    (root : Locale) :
    Prop where
  listed :
    (build sourceSet resources).diagnostics =
      resources.root.properties.flatMap (rootDiagnostics sourceSet root resources.root) ++
        (contributions sourceSet resources root).flatten
  ofRoot :
    ∀ property ∈ resources.root.properties,
      ∀ problem ∈ rootDiagnostics sourceSet root resources.root property,
        problem.locale = some root.tag
  own :
    ∀ index locale resource,
      StandsAt sourceSet resources index locale resource →
      ∃ problems,
        (contributions sourceSet resources root)[index]? = some problems ∧
        ∀ problem ∈ problems, problem.locale = some locale.tag

/-- Whether two catalogs agree on what the root file says about each key, and on the overrides and
the problems of every locale that has the same setting and the same file in both. -/
structure AgreeOnLocales
    (first second : SourceSet)
    (firstResources secondResources : ResourceSet)
    (firstRoot secondRoot : Locale) :
    Prop where
  firstLists : ListsByLocale first firstResources firstRoot
  secondLists : ListsByLocale second secondResources secondRoot
  entries :
    (build first firstResources).entries.map CatalogEntry.toRootEntry =
      (build second secondResources).entries.map CatalogEntry.toRootEntry
  overrides :
    ∀ firstIndex secondIndex locale resource,
      StandsAt first firstResources firstIndex locale resource →
      StandsAt second secondResources secondIndex locale resource →
      (build first firstResources).entries.map (·.override? firstIndex) =
        (build second secondResources).entries.map (·.override? secondIndex)
  problems :
    ∀ firstIndex secondIndex locale resource,
      StandsAt first firstResources firstIndex locale resource →
      StandsAt second secondResources secondIndex locale resource →
      (contributions first firstResources firstRoot)[firstIndex]? =
        (contributions second secondResources secondRoot)[secondIndex]?

theorem listsByLocale_build
    {sourceSet : SourceSet}
    {root : Locale}
    (resources : ResourceSet)
    (rooted : sourceSet.locales[rootIndexOf sourceSet]? = some root) :
    ListsByLocale sourceSet resources root where
  listed := by
    rw [diagnostics_build resources rooted, contributions, ← List.flatMap_def]
  ofRoot := by
    intro property _ problem listed
    obtain ⟨message, _, rfl⟩ := List.mem_map.mp listed
    rfl
  own := by
    intro index locale resource stands
    exact ⟨_, contribution_of_placed stands.locale stands.resource,
      fun problem listed => locale_of_mem_localeDiagnostics listed⟩

/-- The root file says the same about each key, whatever the locales are. -/
theorem rootEntries_congr
    {first second : SourceSet}
    {firstProperties secondProperties : List Properties.Property}
    (transformer : first.transformer = second.transformer)
    (declarations : firstProperties = secondProperties)
    (firstRoot secondRoot : Locale) :
    (firstProperties.map fun property => (rootEntry first firstRoot property).1) =
      secondProperties.map fun property => (rootEntry second secondRoot property).1 := by
  rw [declarations]
  exact List.map_congr_left fun property _ =>
    rootEntry_congr transformer firstRoot secondRoot property

/-- A locale leaves the overrides and the problems of every other locale alone, and all that the
root file says. -/
theorem agreeOnLocales_build
    {first second : SourceSet}
    {firstResources secondResources : ResourceSet}
    {firstRoot secondRoot : Locale}
    (firstSingle : first.root? = some firstRoot)
    (secondSingle : second.root? = some secondRoot)
    (basis : HaveSameBasis first second firstResources secondResources) :
    AgreeOnLocales first second firstResources secondResources firstRoot secondRoot := by
  have firstRooted := (Validation.isRootIndex_of_root? firstSingle).placed
  have secondRooted := (Validation.isRootIndex_of_root? secondSingle).placed
  have sameEntries :=
    rootEntries_congr basis.transformer basis.declarations firstRoot secondRoot
  refine ⟨listsByLocale_build firstResources firstRooted,
    listsByLocale_build secondResources secondRooted, ?_, ?_, ?_⟩
  · rw [entries_build firstResources firstRooted, entries_build secondResources secondRooted,
      List.map_map, List.map_map]
    exact sameEntries
  · intro firstIndex secondIndex locale resource firstStands secondStands
    rw [entries_build firstResources firstRooted, entries_build secondResources secondRooted,
      List.map_map, List.map_map, basis.declarations]
    refine List.map_congr_left fun property _ => ?_
    simp only [Function.comp_apply]
    rw [override?_entryOf (zip_placed firstStands.locale firstStands.resource),
      override?_entryOf (zip_placed secondStands.locale secondStands.resource),
      rootEntry_congr basis.transformer firstRoot secondRoot]
    exact overrideIn_congr basis.transformer rfl rfl resource _
  · intro firstIndex secondIndex locale resource firstStands secondStands
    rw [contribution_of_placed firstStands.locale firstStands.resource,
      contribution_of_placed secondStands.locale secondStands.resource, sameEntries]
    exact congrArg some
      (localeDiagnostics_congr basis.transformer basis.fallback rfl rfl _ resource)

/-- A locale with an override and a problem of its own, before a locale whose file is broken, and
after one that refers to an argument that does not exist. -/
theorem agreeOnLocales_build_reordered :
    let german : Locale := ⟨"de", 1, "0"⟩
    let properties : List Properties.Property := [⟨"a", ["\x7b0\x7d"], 1⟩, ⟨"b", ["c"], 2⟩]
    let germanFile : LocaleResource :=
      .loaded ⟨"de", ⟨"m_de"⟩, [⟨"a", ["d \x7b0\x7d"], 1⟩, ⟨"b", ["\x7b0\x7d"], 2⟩]⟩
    let frenchFile : LocaleResource := .loaded ⟨"fr", ⟨"m_fr"⟩, [⟨"a", ["\x7b1\x7d"], 1⟩]⟩
    let rootFile : ResourceFile := ⟨"", ⟨"m"⟩, properties⟩
    let first : SourceSet :=
      { targetName := "A", locales := [⟨"", 1, "0"⟩, german, ⟨"ja", 1, "0"⟩] }
    let second : SourceSet :=
      { targetName := "B", locales := [⟨"fr", 2, "n > 1"⟩, ⟨"", 2, "n > 1"⟩, german] }
    let firstResources : ResourceSet :=
      ⟨rootFile, [.loaded rootFile, germanFile, .broken ⟨"m_ja"⟩], []⟩
    let secondResources : ResourceSet :=
      ⟨rootFile, [frenchFile, .loaded rootFile, germanFile], []⟩
    first.root? = some ⟨"", 1, "0"⟩ ∧
      second.root? = some ⟨"", 2, "n > 1"⟩ ∧
      HaveSameBasis first second firstResources secondResources ∧
      AgreeOnLocales first second firstResources secondResources ⟨"", 1, "0"⟩
        ⟨"", 2, "n > 1"⟩ := by
  intro german properties germanFile frenchFile rootFile first second firstResources secondResources
  have basis : HaveSameBasis first second firstResources secondResources := ⟨rfl, rfl, rfl⟩
  exact ⟨rfl, rfl, basis, agreeOnLocales_build rfl rfl basis⟩

end Phrasebook.Catalog
