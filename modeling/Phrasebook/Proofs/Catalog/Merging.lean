import Phrasebook.Catalog

namespace Phrasebook.Catalog

/-!
# Merging locales into a catalog

A catalog is built in one pass that changes shared entries and one list of problems. What a locale
leaves there can also be told by itself: an override for each root key, and the problems of its
file. Merging the locale at a position sets the override at that position and adds those problems,
whatever the locales before it have left, so the whole pass gives what the locales give one by one.
-/

/-! ## What a locale contributes -/

/-- The message with which a locale overrides that of a root key. -/
def overrideIn
    (sourceSet : SourceSet)
    (locale : Locale)
    (resource : LocaleResource)
    (entry : RootEntry) :
    Option Message :=
  if locale.isRoot then
    none
  else
    match resource with
    | .loaded file =>
        match Properties.get? file.properties entry.key with
        | none => none
        | some property => (overrideOf sourceSet locale entry property).1
    | _ => none

/-- The problems of a root key in the file of another locale. -/
def entryDiagnostics
    (sourceSet : SourceSet)
    (locale : Locale)
    (file : ResourceFile)
    (entry : RootEntry) :
    List Diagnostic :=
  match Properties.get? file.properties entry.key with
  | none => missingKeyDiagnostics sourceSet locale file entry.key
  | some property =>
      (overrideOf sourceSet locale entry property).2.map
        (keyDiagnostic locale file entry.key (some property.line))

/-- The problems that a locale contributes. -/
def localeDiagnostics
    (sourceSet : SourceSet)
    (entries : List RootEntry)
    (locale : Locale)
    (resource : LocaleResource) :
    List Diagnostic :=
  if locale.isRoot then
    []
  else
    match resource with
    | .loaded file =>
        entries.flatMap (entryDiagnostics sourceSet locale file) ++
          extraDiagnostics sourceSet locale file (entries.map RootEntry.key)
    | .missing path =>
        if sourceSet.fallback.allowMissingFiles then
          []
        else
          [missingFile locale path]
    | .broken _ => []

/-! ## Catalogs in the middle of a pass -/

/-- An entry into which some locales have been merged, with room for some more. -/
def mergedEntry
    (sourceSet : SourceSet)
    (locales : List (Locale × LocaleResource))
    (room : Nat)
    (entry : RootEntry) :
    CatalogEntry where
  toRootEntry := entry
  overrides :=
    (locales.map fun (locale, resource) => overrideIn sourceSet locale resource entry) ++
      List.replicate room none

/-- A catalog into which some locales have been merged, with room for some more. -/
def merged
    (sourceSet : SourceSet)
    (entries : List RootEntry)
    (found : List Diagnostic)
    (locales : List (Locale × LocaleResource))
    (room : Nat) :
    Catalog where
  rootIndex := rootIndexOf sourceSet
  entries := entries.map (mergedEntry sourceSet locales room)
  diagnostics :=
    found ++
      locales.flatMap fun (locale, resource) =>
        localeDiagnostics sourceSet entries locale resource

section

variable {sourceSet : SourceSet} {locale : Locale} {locales : List (Locale × LocaleResource)}

/-! ## One step -/

/-- A locale that overrides nothing leaves its slot empty. -/
theorem mergedEntry_append_of_none
    {resource : LocaleResource}
    {entry : RootEntry}
    (nothing : overrideIn sourceSet locale resource entry = none)
    (room : Nat) :
    mergedEntry sourceSet (locales ++ [(locale, resource)]) room entry =
      mergedEntry sourceSet locales (room + 1) entry := by
  simp [mergedEntry, nothing, List.replicate_succ]

/-- A locale that overrides the root message fills its slot and no other. -/
theorem mergedEntry_append_of_some
    {resource : LocaleResource}
    {entry : RootEntry}
    {message : Message}
    (overrides : overrideIn sourceSet locale resource entry = some message)
    (room : Nat) :
    mergedEntry sourceSet (locales ++ [(locale, resource)]) room entry =
      let before := mergedEntry sourceSet locales (room + 1) entry
      { before with overrides := before.overrides.set locales.length (some message) } := by
  simp [mergedEntry, overrides, List.replicate_succ, List.set_append_right]

/-- Merging the file of a locale into an entry fills the next slot if the locale overrides the root
message, and adds the problems of the key. -/
theorem mergeEntry_mergedEntry
    (noRoot : locale.isRoot = false)
    (file : ResourceFile)
    (room : Nat)
    (pending : List Diagnostic)
    (entry : RootEntry) :
    mergeEntry sourceSet locales.length locale file (mergedEntry sourceSet locales (room + 1) entry)
        pending =
      (mergedEntry sourceSet (locales ++ [(locale, .loaded file)]) room entry,
        pending ++ entryDiagnostics sourceSet locale file entry) := by
  have asked : (mergedEntry sourceSet locales (room + 1) entry).key = entry.key := rfl
  unfold mergeEntry entryDiagnostics
  rw [asked]
  cases found : Properties.get? file.properties entry.key with
  | none =>
      have nothing : overrideIn sourceSet locale (.loaded file) entry = none := by
        simp [overrideIn, noRoot, found]
      rw [mergedEntry_append_of_none nothing]
  | some property =>
      have override :
          overrideIn sourceSet locale (.loaded file) entry =
            (overrideOf sourceSet locale entry property).1 := by
        simp [overrideIn, noRoot, found]
      have given : (mergedEntry sourceSet locales (room + 1) entry).toRootEntry = entry := rfl
      simp only [given]
      cases outcome : (overrideOf sourceSet locale entry property).1 with
      | none =>
          rw [mergedEntry_append_of_none (override.trans outcome)]
      | some message =>
          rw [mergedEntry_append_of_some (override.trans outcome)]
          rfl

/-- So does merging it into all entries, one after another. -/
theorem mergeEntries_merged
    (noRoot : locale.isRoot = false)
    (file : ResourceFile)
    (room : Nat)
    (pending : List Diagnostic)
    (entries : List RootEntry) :
    mergeEntries sourceSet locales.length locale file pending
        (entries.map (mergedEntry sourceSet locales (room + 1))) =
      (entries.map (mergedEntry sourceSet (locales ++ [(locale, .loaded file)]) room),
        pending ++ entries.flatMap (entryDiagnostics sourceSet locale file)) := by
  induction entries generalizing pending with
  | nil =>
      simp [mergeEntries]
  | cons entry entries inductionHypothesis =>
      rw [List.map_cons, mergeEntries, mergeEntry_mergedEntry noRoot]
      simp only [inductionHypothesis, List.map_cons, List.flatMap_cons, List.append_assoc]

/-- A locale without a file, or one that is a root locale, changes no entry. -/
theorem merged_append_of_none
    {resource : LocaleResource}
    {entries : List RootEntry}
    (nothing : ∀ entry, overrideIn sourceSet locale resource entry = none)
    (found : List Diagnostic)
    (room : Nat) :
    merged sourceSet entries found (locales ++ [(locale, resource)]) room =
      let before := merged sourceSet entries found locales (room + 1)
      { before with
        diagnostics :=
          before.diagnostics ++ localeDiagnostics sourceSet entries locale resource } := by
  simp [merged, mergedEntry_append_of_none (nothing _)]

/-- Merging the locale at a position adds its overrides in its slots and its problems behind those
that are pending. -/
theorem mergeLocale_merged
    (entries : List RootEntry)
    (found : List Diagnostic)
    (resource : LocaleResource)
    (room : Nat) :
    mergeLocale sourceSet (entries.map RootEntry.key) locales.length locale resource
        (merged sourceSet entries found locales (room + 1)) =
      merged sourceSet entries found (locales ++ [(locale, resource)]) room := by
  unfold mergeLocale
  cases isRoot : locale.isRoot with
  | true =>
      have nothing : ∀ entry, overrideIn sourceSet locale resource entry = none := by
        simp [overrideIn, isRoot]
      rw [merged_append_of_none nothing]
      simp [localeDiagnostics, isRoot]
  | false =>
      cases resource with
      | loaded file =>
          have pass :
              mergeEntries sourceSet locales.length locale file
                  (merged sourceSet entries found locales (room + 1)).diagnostics
                  (merged sourceSet entries found locales (room + 1)).entries = _ :=
            mergeEntries_merged isRoot file room _ entries
          simp only [Bool.false_eq_true, if_false, pass]
          simp [merged, localeDiagnostics, isRoot]
      | missing path =>
          have nothing : ∀ entry, overrideIn sourceSet locale (.missing path) entry = none := by
            simp [overrideIn]
          rw [merged_append_of_none nothing]
          simp only [localeDiagnostics, isRoot, Bool.false_eq_true, if_false]
          split <;> simp
      | broken path =>
          have nothing : ∀ entry, overrideIn sourceSet locale (.broken path) entry = none := by
            simp [overrideIn]
          rw [merged_append_of_none nothing]
          simp [localeDiagnostics, isRoot]

/-! ## The whole pass -/

/-- Merging locales one after another gives what they contribute one by one. -/
theorem mergeLocales_merged
    (entries : List RootEntry)
    (found : List Diagnostic)
    (room : Nat)
    (locales further : List (Locale × LocaleResource)) :
    mergeLocales sourceSet (entries.map RootEntry.key) locales.length further
        (merged sourceSet entries found locales (further.length + room)) =
      merged sourceSet entries found (locales ++ further) room := by
  induction further generalizing locales with
  | nil =>
      simp [mergeLocales]
  | cons pair further inductionHypothesis =>
      obtain ⟨locale, resource⟩ := pair
      have later := inductionHypothesis (locales ++ [(locale, resource)])
      rw [List.length_append, List.length_singleton, List.append_assoc] at later
      rw [List.length_cons, Nat.add_right_comm, mergeLocales, mergeLocale_merged]
      exact later

/-- The catalog of the root file alone has no locale merged into it. -/
theorem ofRoot_eq_merged
    (root : Locale)
    (file : ResourceFile) :
    ofRoot sourceSet root file =
      merged sourceSet (file.properties.map fun property => (rootEntry sourceSet root property).1)
        (file.properties.flatMap (rootDiagnostics sourceSet root file)) []
        sourceSet.locales.length := by
  simp [ofRoot, merged, mergedEntry]

/-- The catalog of a source set with a root locale, told by what each locale contributes. -/
theorem build_eq_merged
    {root : Locale}
    (resources : ResourceSet)
    (rooted : sourceSet.locales[rootIndexOf sourceSet]? = some root) :
    build sourceSet resources =
      merged sourceSet
        (resources.root.properties.map fun property => (rootEntry sourceSet root property).1)
        (resources.root.properties.flatMap (rootDiagnostics sourceSet root resources.root))
        (sourceSet.locales.zip resources.locales)
        (sourceSet.locales.length - resources.locales.length) := by
  have keys :
      resources.root.properties.map Properties.Property.key =
        (resources.root.properties.map fun property =>
          (rootEntry sourceSet root property).1).map RootEntry.key := by
    rw [List.map_map]
    rfl
  have slots :
      sourceSet.locales.length =
        (sourceSet.locales.zip resources.locales).length +
          (sourceSet.locales.length - resources.locales.length) := by
    rw [List.length_zip]
    omega
  rw [build, rooted]
  simp only
  rw [keys, ofRoot_eq_merged]
  conv => lhs; rw [slots]
  exact mergeLocales_merged _ _ _ [] _

end

end Phrasebook.Catalog
