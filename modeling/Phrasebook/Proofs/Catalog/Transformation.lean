import Phrasebook.Proofs.Catalog.Merging

namespace Phrasebook

/-!
# Catalogs of transformed messages

A transformer acts on each variant of a message before placeholders are looked for and before
anything else depends on the text. So it makes no difference whether a source set transforms the
variants of its files, or the files hold the transformed variants and the source set leaves them
as they are.
-/

/-! ## Transformed resources -/

namespace Properties

/-- A declaration with each of its variants changed. -/
def Property.mapVariants
    (change : String → String)
    (property : Property) :
    Property :=
  { property with variants := property.variants.map change }

theorem Property.isPlural_mapVariants
    (change : String → String)
    (property : Property) :
    (property.mapVariants change).isPlural = property.isPlural := by
  rw [isPlural, isPlural, mapVariants, List.length_map]

/-- Changed variants leave the keys what they are. -/
theorem get?_map_mapVariants
    (change : String → String)
    (properties : List Property)
    (key : String) :
    get? (properties.map (·.mapVariants change)) key =
      (get? properties key).map (·.mapVariants change) := by
  rw [get?, get?, List.find?_map]
  rfl

end Properties

/-- A file with each variant of each declaration changed. -/
def ResourceFile.mapVariants
    (change : String → String)
    (file : ResourceFile) :
    ResourceFile :=
  { file with properties := file.properties.map (·.mapVariants change) }

/-- What was found for a locale, with each variant of its declarations changed. -/
def LocaleResource.mapVariants
    (change : String → String) :
    LocaleResource →
    LocaleResource
  | .loaded file => .loaded (file.mapVariants change)
  | .missing path => .missing path
  | .broken path => .broken path

/-- Resources with each variant of each declaration of each file changed. -/
def ResourceSet.mapVariants
    (change : String → String)
    (resources : ResourceSet) :
    ResourceSet where
  root := resources.root.mapVariants change
  locales := resources.locales.map (·.mapVariants change)
  diagnostics := resources.diagnostics

/-! ## Source sets that share the work -/

/-- Whether a source set has the locales and the policy of another one, and makes of a changed
variant what the other makes of the variant itself. -/
structure SourceSet.TransformsAfter
    (change : String → String)
    (later whole : SourceSet) :
    Prop where
  locales : later.locales = whole.locales
  fallback : later.fallback = whole.fallback
  transformed : ∀ variant, later.transformed (change variant) = whole.transformed variant

namespace SourceSet.TransformsAfter

open Catalog

variable
  {change : String → String}
  {later whole : SourceSet}

theorem map_transformed
    (after : TransformsAfter change later whole)
    (property : Properties.Property) :
    (property.mapVariants change).variants.map later.transformed =
      property.variants.map whole.transformed := by
  rw [Properties.Property.mapVariants, List.map_map]
  exact List.map_congr_left fun variant _ => after.transformed variant

theorem rootEntry_eq
    (after : TransformsAfter change later whole)
    (locale : Locale)
    (property : Properties.Property) :
    rootEntry later locale (property.mapVariants change) = rootEntry whole locale property := by
  have arity : arityOf (property.mapVariants change) = arityOf property := by
    rw [arityOf, arityOf, Properties.Property.isPlural_mapVariants]
    simp [Properties.Property.mapVariants]
  simp only [rootEntry, arity, after.map_transformed]
  rfl

theorem rootDiagnostics_eq
    (after : TransformsAfter change later whole)
    (locale : Locale)
    (file : ResourceFile)
    (property : Properties.Property) :
    rootDiagnostics later locale (file.mapVariants change) (property.mapVariants change) =
      rootDiagnostics whole locale file property := by
  rw [rootDiagnostics, rootDiagnostics, after.rootEntry_eq]
  rfl

theorem overrideOf_eq
    (after : TransformsAfter change later whole)
    (locale : Locale)
    (entry : RootEntry)
    (property : Properties.Property) :
    overrideOf later locale entry (property.mapVariants change) =
      overrideOf whole locale entry property := by
  have length : (property.mapVariants change).variants.length = property.variants.length :=
    List.length_map _
  have outcomes :
      ((property.mapVariants change).variants.map fun variant =>
          resolveVariant entry.arguments (later.transformed variant)) =
        property.variants.map fun variant =>
          resolveVariant entry.arguments (whole.transformed variant) := by
    have texts := congrArg (List.map (resolveVariant entry.arguments))
      (after.map_transformed property)
    rw [List.map_map, List.map_map] at texts
    exact texts
  simp only [overrideOf, length, outcomes]

theorem overrideIn_eq
    (after : TransformsAfter change later whole)
    (locale : Locale)
    (resource : LocaleResource)
    (entry : RootEntry) :
    overrideIn later locale (resource.mapVariants change) entry =
      overrideIn whole locale resource entry := by
  cases resource with
  | loaded file =>
      simp only [overrideIn, LocaleResource.mapVariants, ResourceFile.mapVariants,
        Properties.get?_map_mapVariants]
      cases Properties.get? file.properties entry.key with
      | none =>
          rfl
      | some property =>
          simp only [Option.map_some, after.overrideOf_eq]
  | missing path =>
      rfl
  | broken path =>
      rfl

theorem entryDiagnostics_eq
    (after : TransformsAfter change later whole)
    (locale : Locale)
    (file : ResourceFile)
    (entry : RootEntry) :
    entryDiagnostics later locale (file.mapVariants change) entry =
      entryDiagnostics whole locale file entry := by
  simp only [entryDiagnostics, ResourceFile.mapVariants, Properties.get?_map_mapVariants]
  cases Properties.get? file.properties entry.key with
  | none =>
      simp only [Option.map_none, missingKeyDiagnostics, after.fallback]
      rfl
  | some property =>
      simp only [Option.map_some, after.overrideOf_eq]
      rfl

theorem extraDiagnostics_eq
    (after : TransformsAfter change later whole)
    (locale : Locale)
    (file : ResourceFile)
    (rootKeys : List String) :
    extraDiagnostics later locale (file.mapVariants change) rootKeys =
      extraDiagnostics whole locale file rootKeys := by
  rw [extraDiagnostics, extraDiagnostics, after.fallback, ResourceFile.mapVariants,
    List.filter_map, List.map_map]
  rfl

theorem localeDiagnostics_eq
    (after : TransformsAfter change later whole)
    (entries : List RootEntry)
    (locale : Locale)
    (resource : LocaleResource) :
    localeDiagnostics later entries locale (resource.mapVariants change) =
      localeDiagnostics whole entries locale resource := by
  cases resource with
  | loaded file =>
      have ofEntries := funext (after.entryDiagnostics_eq locale file)
      simp only [localeDiagnostics, LocaleResource.mapVariants, ofEntries,
        after.extraDiagnostics_eq]
  | missing path =>
      simp only [localeDiagnostics, LocaleResource.mapVariants, after.fallback]
  | broken path =>
      rfl

/-- What the locales contribute to a catalog is the same for the changed resources. -/
theorem merged_eq
    (after : TransformsAfter change later whole)
    (entries : List RootEntry)
    (found : List Diagnostic)
    (locales : List (Locale × LocaleResource))
    (room : Nat) :
    merged later entries found (locales.map (Prod.map id (LocaleResource.mapVariants change)))
        room =
      merged whole entries found locales room := by
  have rootIndex : rootIndexOf later = rootIndexOf whole := by
    rw [rootIndexOf, rootIndexOf, after.locales]
  have mergedEntries :
      mergedEntry later (locales.map (Prod.map id (LocaleResource.mapVariants change))) room =
        mergedEntry whole locales room := by
    funext entry
    simp only [mergedEntry, List.map_map, Function.comp_def, Prod.map, id_eq, after.overrideIn_eq]
  simp only [merged, rootIndex, mergedEntries, List.flatMap_map, Prod.map, id_eq,
    after.localeDiagnostics_eq]

/-- The source set that leaves less to do has the same catalog for the changed resources. -/
theorem build_eq
    (after : TransformsAfter change later whole)
    (resources : ResourceSet) :
    build later (resources.mapVariants change) = build whole resources := by
  have rootIndex : rootIndexOf later = rootIndexOf whole := by
    rw [rootIndexOf, rootIndexOf, after.locales]
  cases rooted : whole.locales[rootIndexOf whole]? with
  | none =>
      rw [build, build, rootIndex, after.locales, rooted]
  | some root =>
      have entries :
          ((resources.mapVariants change).root.properties.map fun property =>
              (rootEntry later root property).1) =
            resources.root.properties.map fun property => (rootEntry whole root property).1 := by
        simp only [ResourceSet.mapVariants, ResourceFile.mapVariants, List.map_map,
          Function.comp_def, after.rootEntry_eq]
      have ofRoot :
          (resources.mapVariants change).root.properties.flatMap
              (rootDiagnostics later root (resources.mapVariants change).root) =
            resources.root.properties.flatMap (rootDiagnostics whole root resources.root) := by
        change (resources.root.properties.map (·.mapVariants change)).flatMap
          (rootDiagnostics later root (resources.root.mapVariants change)) = _
        simp only [List.flatMap_map, after.rootDiagnostics_eq]
      have locales :
          later.locales.zip (resources.mapVariants change).locales =
            (whole.locales.zip resources.locales).map
              (Prod.map id (LocaleResource.mapVariants change)) := by
        rw [after.locales, ResourceSet.mapVariants, List.zip_map_right]
      have room : (resources.mapVariants change).locales.length = resources.locales.length :=
        List.length_map _
      have rootedLater : later.locales[rootIndexOf later]? = some root := by
        rw [rootIndex, after.locales]
        exact rooted
      rw [build_eq_merged _ rootedLater, build_eq_merged _ rooted, entries, ofRoot, locales, room,
        after.locales]
      exact after.merged_eq _ _ _ _

end SourceSet.TransformsAfter

namespace Catalog

/-- A source set with a transformer has the catalog, problems included, that it has without one
for resources of which every variant is transformed. -/
theorem build_transformer
    (sourceSet : SourceSet)
    (transformer : Transformer)
    (resources : ResourceSet) :
    build { sourceSet with transformer := some transformer } resources =
      build { sourceSet with transformer := none }
        (resources.mapVariants transformer.apply) := by
  have after :
      SourceSet.TransformsAfter transformer.apply
        { sourceSet with transformer := none }
        { sourceSet with transformer := some transformer } :=
    ⟨rfl, rfl, fun _ => rfl⟩
  exact (after.build_eq resources).symm

end Catalog

end Phrasebook
