import Phrasebook.Proofs.Catalog.Binding
import Phrasebook.Proofs.Catalog.Merging

namespace Phrasebook.Catalog

/-!
# The entries of a catalog and the problems of their keys

A catalog has one entry for each root declaration, in order. The problems of a root declaration
are among those of the catalog and name its key, so a key without problems is soundly declared.
-/

/-- The entry of a root declaration. A locale for which nothing was loaded leaves its slot empty. -/
def entryOf
    (sourceSet : SourceSet)
    (resources : ResourceSet)
    (root : Locale)
    (property : Properties.Property) :
    CatalogEntry :=
  mergedEntry sourceSet (sourceSet.locales.zip resources.locales)
    (sourceSet.locales.length - resources.locales.length) (rootEntry sourceSet root property).1

section

variable {sourceSet : SourceSet} {root : Locale}

/-- The entries of a catalog are those of the root declarations, in order. -/
theorem entries_build
    (resources : ResourceSet)
    (rooted : sourceSet.locales[rootIndexOf sourceSet]? = some root) :
    (build sourceSet resources).entries =
      resources.root.properties.map (entryOf sourceSet resources root) := by
  rw [build_eq_merged resources rooted, merged, List.map_map]
  rfl

/-- The problems of a catalog, first those of the root declarations. -/
theorem diagnostics_build
    (resources : ResourceSet)
    (rooted : sourceSet.locales[rootIndexOf sourceSet]? = some root) :
    (build sourceSet resources).diagnostics =
      resources.root.properties.flatMap (rootDiagnostics sourceSet root resources.root) ++
        (sourceSet.locales.zip resources.locales).flatMap fun (locale, resource) =>
          localeDiagnostics sourceSet
            (resources.root.properties.map fun property => (rootEntry sourceSet root property).1)
            locale resource := by
  rw [build_eq_merged resources rooted, merged]

/-- A catalog keeps the position of the root locale. -/
theorem rootIndex_build
    (resources : ResourceSet)
    (rooted : sourceSet.locales[rootIndexOf sourceSet]? = some root) :
    (build sourceSet resources).rootIndex = rootIndexOf sourceSet := by
  rw [build_eq_merged resources rooted, merged]

end

/-- The overrides of an entry if something was looked for in every locale. -/
theorem overrides_entryOf
    {sourceSet : SourceSet}
    {resources : ResourceSet}
    (aligned : resources.locales.length = sourceSet.locales.length)
    (root : Locale)
    (property : Properties.Property) :
    (entryOf sourceSet resources root property).overrides =
      (sourceSet.locales.zip resources.locales).map fun (locale, resource) =>
        overrideIn sourceSet locale resource (rootEntry sourceSet root property).1 := by
  simp [entryOf, mergedEntry, aligned]

/-- The override of an entry in a locale for which something was looked for. -/
theorem override?_entryOf
    {sourceSet : SourceSet}
    {resources : ResourceSet}
    {index : Nat}
    {locale : Locale}
    {resource : LocaleResource}
    {root : Locale}
    {property : Properties.Property}
    (placed : (sourceSet.locales.zip resources.locales)[index]? = some (locale, resource)) :
    (entryOf sourceSet resources root property).override? index =
      overrideIn sourceSet locale resource (rootEntry sourceSet root property).1 := by
  have within : index < (sourceSet.locales.zip resources.locales).length :=
    (List.getElem?_eq_some_iff.mp placed).1
  rw [CatalogEntry.override?, entryOf, mergedEntry,
    List.getElem?_append_left (by rwa [List.length_map]), List.getElem?_map, placed]
  rfl

/-- What overrides an entry was found for the locale at that position. -/
theorem exists_overrideIn_of_override?
    {sourceSet : SourceSet}
    {resources : ResourceSet}
    {root : Locale}
    {property : Properties.Property}
    {index : Nat}
    {message : Message}
    (overridden : (entryOf sourceSet resources root property).override? index = some message) :
    ∃ locale resource,
      sourceSet.locales[index]? = some locale ∧
        overrideIn sourceSet locale resource (rootEntry sourceSet root property).1 =
          some message := by
  by_cases within : index < (sourceSet.locales.zip resources.locales).length
  · have placed := List.getElem?_eq_getElem within
    rw [override?_entryOf placed] at overridden
    exact ⟨_, _, (List.getElem?_zip_eq_some.mp placed).1, overridden⟩
  · have empty : (entryOf sourceSet resources root property).override? index = none := by
      rw [CatalogEntry.override?, entryOf, mergedEntry,
        List.getElem?_append_right (by rw [List.length_map]; omega), List.getElem?_replicate]
      split <;> rfl
    rw [empty] at overridden
    cases overridden

/-- A catalog with an entry has a root locale. -/
theorem exists_root_of_entry
    {sourceSet : SourceSet}
    {resources : ResourceSet}
    {entry : CatalogEntry}
    (member : entry ∈ (build sourceSet resources).entries) :
    ∃ root, sourceSet.locales[rootIndexOf sourceSet]? = some root := by
  unfold build at member
  split at member
  · cases member
  · rename_i root rooted
    exact ⟨root, rooted⟩

/-- The problems of a root declaration are among those of the catalog. -/
theorem keyDiagnostic_mem_build
    {sourceSet : SourceSet}
    {resources : ResourceSet}
    {root : Locale}
    {property : Properties.Property}
    {message : String}
    (rooted : sourceSet.locales[rootIndexOf sourceSet]? = some root)
    (member : property ∈ resources.root.properties)
    (written : message ∈ (rootEntry sourceSet root property).2) :
    keyDiagnostic root resources.root property.key (some property.line) message ∈
      (build sourceSet resources).diagnostics := by
  rw [diagnostics_build resources rooted]
  refine List.mem_append_left _ (List.mem_flatMap.mpr ⟨property, member, ?_⟩)
  exact List.mem_map.mpr ⟨message, written, rfl⟩

/-- A root declaration whose key has no problem is sound. -/
theorem soundRoot_of_silent
    {sourceSet : SourceSet}
    {resources : ResourceSet}
    {root : Locale}
    {property : Properties.Property}
    (rooted : sourceSet.locales[rootIndexOf sourceSet]? = some root)
    (member : property ∈ resources.root.properties)
    (silent :
      ∀ diagnostic ∈ (build sourceSet resources).diagnostics, diagnostic.key ≠ some property.key) :
    SoundRoot sourceSet root property (rootEntry sourceSet root property).1 := by
  refine soundRoot_of_rootEntry (List.eq_nil_iff_forall_not_mem.mpr fun message written => ?_)
  exact silent _ (keyDiagnostic_mem_build rooted member written) rfl

end Phrasebook.Catalog
