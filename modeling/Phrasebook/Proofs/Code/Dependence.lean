import Mathlib
import Phrasebook.Code.Render
import Phrasebook.Proofs.Validation.Bundle

namespace Phrasebook

/-!
# What generated code depends on

The code of a valid bundle is a function of the configuration and of the variants that the files
declare for the keys of the root file. Where the files are, on which lines they declare a key, in
which order the files of other locales do, and what else they declare makes no difference.
-/

namespace ResourceSet

/-! ## Declarations -/

/-- The declarations of the file at a path, if it can be used. -/
def declarationsAt?
    (tree : FileTree)
    (path : Path) :
    Option (List Properties.Property) :=
  match tree.read path with
  | .error _ => none
  | .ok bytes => (Properties.readBytes bytes).toOption

/-- The keys and variants of the root file in order, without their lines. -/
def rootDeclarations?
    (sourceSet : SourceSet)
    (tree : FileTree)
    (input : Path) :
    Option (List (String × List String)) :=
  sourceSet.root?.bind fun root =>
    (declarationsAt? tree (filePath sourceSet input root)).map fun properties =>
      properties.map fun property => (property.key, property.variants)

/-- The variants that the file of a locale declares for a key, if there is one and it does. -/
def variantsIn?
    (sourceSet : SourceSet)
    (tree : FileTree)
    (input : Path)
    (locale : Locale)
    (key : String) :
    Option (List String) :=
  (declarationsAt? tree (filePath sourceSet input locale)).bind fun properties =>
    (Properties.get? properties key).map Properties.Property.variants

/-- Whether the files below two input directories declare the same for the keys of the root
file. -/
structure DeclareAlike
    (sourceSet : SourceSet)
    (firstTree : FileTree)
    (firstInput : Path)
    (secondTree : FileTree)
    (secondInput : Path) :
    Prop where
  root :
    rootDeclarations? sourceSet firstTree firstInput =
      rootDeclarations? sourceSet secondTree secondInput
  others :
    ∀ locale ∈ sourceSet.locales, locale.isRoot = false →
      ∀ declarations, rootDeclarations? sourceSet firstTree firstInput = some declarations →
        ∀ declaration ∈ declarations,
          variantsIn? sourceSet firstTree firstInput locale declaration.1 =
            variantsIn? sourceSet secondTree secondInput locale declaration.1

/-- The root declarations of loaded resources are those of the root file. -/
theorem rootDeclarations?_of_load
    {sourceSet : SourceSet}
    {tree : FileTree}
    {input : Path}
    {root : Locale}
    {resources : ResourceSet}
    (single : sourceSet.root? = some root)
    (loaded : load sourceSet tree input = .ok resources) :
    rootDeclarations? sourceSet tree input =
      some (resources.root.properties.map fun property => (property.key, property.variants)) := by
  obtain ⟨_, other, otherMember, otherRoot, bytes, bytesRead, readAs⟩ := load_eq_ok loaded
  have rooted := Validation.isRootIndex_of_root? single
  obtain ⟨position, placed⟩ := List.mem_iff_getElem?.mp otherMember
  rw [rooted.only position other placed otherRoot, rooted.placed] at placed
  cases placed
  simp [rootDeclarations?, declarationsAt?, single, bytesRead, readAs, Except.toOption]

/-- The variants that a loaded resource gives for a key. -/
def givenVariants?
    (key : String) :
    LocaleResource →
    Option (List String)
  | .loaded file => (Properties.get? file.properties key).map Properties.Property.variants
  | .missing _ => none
  | .broken _ => none

/-- A locale other than the root locale gives a key the variants that its file declares. -/
theorem givenVariants?_of_loadLocale
    {sourceSet : SourceSet}
    {tree : FileTree}
    {input : Path}
    {locale : Locale}
    {resource : LocaleResource}
    {diagnostics : List Diagnostic}
    (loaded : loadLocale sourceSet tree input locale = .ok (resource, diagnostics))
    (noRoot : locale.isRoot = false)
    (key : String) :
    givenVariants? key resource = variantsIn? sourceSet tree input locale key := by
  rw [loadLocale, noRoot, if_neg Bool.false_ne_true, Except.ok.injEq, loadOther] at loaded
  rw [variantsIn?, declarationsAt?]
  cases found : tree.read (filePath sourceSet input locale) with
  | error fault =>
      rw [found] at loaded
      cases loaded
      rfl
  | ok bytes =>
      simp only [found, readFile] at loaded
      cases readAs : Properties.readBytes bytes with
      | error error =>
          simp only [readAs] at loaded
          cases loaded
          simp [givenVariants?, readAs, Except.toOption]
      | ok properties =>
          simp only [readAs] at loaded
          cases loaded
          simp [givenVariants?, readAs, Except.toOption]

end ResourceSet

namespace Catalog

/-! ## Overriding messages -/

/-- The message with which a locale overrides that of a root key, for the variants that it gives
the key. -/
def overrideFrom
    (sourceSet : SourceSet)
    (entry : RootEntry)
    (locale : Locale)
    (given : Option (List String)) :
    Option Message :=
  if locale.isRoot then
    none
  else
    given.bind fun variants => (overrideOf sourceSet locale entry ⟨entry.key, variants, 0⟩).1

theorem overrideIn_eq
    (sourceSet : SourceSet)
    (locale : Locale)
    (resource : LocaleResource)
    (entry : RootEntry) :
    overrideIn sourceSet locale resource entry =
      overrideFrom sourceSet entry locale (ResourceSet.givenVariants? entry.key resource) := by
  unfold overrideIn overrideFrom
  cases locale.isRoot with
  | true =>
      rfl
  | false =>
      cases resource with
      | loaded file =>
          simp only [ResourceSet.givenVariants?]
          cases found : Properties.get? file.properties entry.key with
          | none =>
              rfl
          | some property =>
              rfl
      | missing path =>
          rfl
      | broken path =>
          rfl

/-- The overriding messages of a root key depend on what the files of the locales declare. -/
theorem overrides_of_load
    {sourceSet : SourceSet}
    {tree : FileTree}
    {input : Path}
    {resources : ResourceSet}
    (loaded : ResourceSet.load sourceSet tree input = .ok resources)
    (entry : RootEntry) :
    (sourceSet.locales.zip resources.locales).map
        (fun (locale, resource) => overrideIn sourceSet locale resource entry) =
      sourceSet.locales.map fun locale =>
        overrideFrom sourceSet entry locale
          (ResourceSet.variantsIn? sourceSet tree input locale entry.key) := by
  obtain ⟨aligned, -⟩ := ResourceSet.forall₂_of_load loaded
  generalize sourceSet.locales = locales at aligned ⊢
  generalize resources.locales = found at aligned ⊢
  induction aligned with
  | nil =>
      rfl
  | @cons locale resource _ _ placed _ inductionHypothesis =>
      obtain ⟨diagnostics, placed⟩ := placed
      rw [List.zip_cons_cons, List.map_cons, List.map_cons, inductionHypothesis]
      simp only [overrideIn_eq]
      congr 1
      cases isRoot : locale.isRoot with
      | true =>
          simp [overrideFrom, isRoot]
      | false =>
          rw [ResourceSet.givenVariants?_of_loadLocale placed isRoot]

/-- The entry of a root key, for its variants and those that the locales give it. -/
def entryFrom
    (sourceSet : SourceSet)
    (root : Locale)
    (key : String)
    (variants : List String)
    (given : Locale → Option (List String)) :
    CatalogEntry where
  toRootEntry := (rootEntry sourceSet root ⟨key, variants, 0⟩).1
  overrides :=
    sourceSet.locales.map fun locale =>
      overrideFrom sourceSet (rootEntry sourceSet root ⟨key, variants, 0⟩).1 locale (given locale)

/-- Locales other than the root locale decide the overriding messages of an entry. -/
theorem entryFrom_congr
    {sourceSet : SourceSet}
    (root : Locale)
    (key : String)
    (variants : List String)
    {first second : Locale → Option (List String)}
    (alike : ∀ locale ∈ sourceSet.locales, locale.isRoot = false → first locale = second locale) :
    entryFrom sourceSet root key variants first = entryFrom sourceSet root key variants second := by
  rw [entryFrom, entryFrom]
  congr 1
  refine List.map_congr_left fun locale isMember => ?_
  cases isRoot : locale.isRoot with
  | true =>
      simp [overrideFrom, isRoot]
  | false =>
      rw [alike locale isMember isRoot]

end Catalog

namespace Code

/-! ## Accessors -/

/-- The line of a declaration makes no difference to its accessor. -/
theorem ofEntry_entryOf
    {sourceSet : SourceSet}
    {tree : FileTree}
    {input : Path}
    {resources : ResourceSet}
    (loaded : ResourceSet.load sourceSet tree input = .ok resources)
    (root : Locale)
    (property : Properties.Property)
    (name : String) :
    Accessor.ofEntry sourceSet.locales root
        (Catalog.entryOf sourceSet resources root property) name =
      Accessor.ofEntry sourceSet.locales root
        (Catalog.entryFrom sourceSet root property.key property.variants fun locale =>
          ResourceSet.variantsIn? sourceSet tree input locale property.key) name := by
  have overrides :=
    (Catalog.overrides_entryOf (ResourceSet.load_eq_ok loaded).1 root property).trans
      (Catalog.overrides_of_load loaded _)
  have entry :
      Catalog.entryOf sourceSet resources root property =
        ⟨(Catalog.rootEntry sourceSet root property).1,
          (Catalog.entryOf sourceSet resources root property).overrides⟩ :=
    rfl
  rw [entry, overrides]
  rfl

/-- The accessors of a valid bundle, for the declarations of the root file. -/
theorem accessorsOf_of_validate
    {sourceSet : SourceSet}
    {tree : FileTree}
    {input output : Path}
    {bundle : Bundle}
    (validated : Validation.validate sourceSet tree input output = .ok bundle) :
    ∃ root declarations,
      sourceSet.root? = some root ∧
        ResourceSet.rootDeclarations? sourceSet tree input = some declarations ∧
        accessorsOf bundle =
          declarations.map fun (key, variants) =>
            Accessor.ofEntry sourceSet.locales root
              (Catalog.entryFrom sourceSet root key variants fun locale =>
                ResourceSet.variantsIn? sourceSet tree input locale key)
              (sourceSet.naming.accessorName key) := by
  obtain ⟨root, resources, single, loaded, -, found⟩ := Validation.validate_eq_ok_iff.mp validated
  obtain ⟨-, -, locales, catalog, accessors, -⟩ := Validation.parts_of_bundleOf? found
  have rooted := Validation.isRootIndex_of_root? single
  have rootIndex : bundle.catalog.rootIndex = Catalog.rootIndexOf sourceSet := by
    rw [catalog, Catalog.rootIndex_build resources rooted.placed]
  refine ⟨root, _, single, ResourceSet.rootDeclarations?_of_load single loaded, ?_⟩
  rw [accessorsOf, rootIndex, locales, rooted.placed, accessors, catalog,
    Validation.accessorNames, Catalog.entries_build resources rooted.placed]
  simp only
  rw [← List.map_prod_left_eq_zip, List.map_map, List.map_map, List.map_map]
  refine List.map_congr_left fun property _ => ?_
  exact ofEntry_entryOf loaded root property _

theorem render_congr
    {first second : Bundle}
    (target : first.target = second.target)
    (locales : first.locales = second.locales)
    (rules : first.rules = second.rules)
    (accessors : accessorsOf first = accessorsOf second) :
    render first = render second := by
  rw [render, render, moduleLines, moduleLines, implementationLines, implementationLines, target,
    locales, rules, accessors]

/-- Two valid bundles of one source set are rendered alike if the files that they come from declare
the same for the keys of the root file. -/
theorem render_eq_of_declareAlike
    {sourceSet : SourceSet}
    {firstTree secondTree : FileTree}
    {firstInput firstOutput secondInput secondOutput : Path}
    {first second : Bundle}
    (firstValid : Validation.validate sourceSet firstTree firstInput firstOutput = .ok first)
    (secondValid : Validation.validate sourceSet secondTree secondInput secondOutput = .ok second)
    (alike :
      ResourceSet.DeclareAlike sourceSet firstTree firstInput secondTree secondInput) :
    render first = render second := by
  obtain ⟨_, _, _, _, _, firstFound⟩ := Validation.validate_eq_ok_iff.mp firstValid
  obtain ⟨_, _, _, _, _, secondFound⟩ := Validation.validate_eq_ok_iff.mp secondValid
  obtain ⟨firstTarget, firstRules, firstLocales, -⟩ := Validation.parts_of_bundleOf? firstFound
  obtain ⟨secondTarget, secondRules, secondLocales, -⟩ := Validation.parts_of_bundleOf? secondFound
  refine render_congr (Except.ok.inj (firstTarget.symm.trans secondTarget))
    (firstLocales.trans secondLocales.symm)
    (Option.some.inj (firstRules.symm.trans secondRules)) ?_
  obtain ⟨root, declarations, single, declared, firstAccessors⟩ :=
    accessorsOf_of_validate firstValid
  obtain ⟨other, further, otherSingle, furtherDeclared, secondAccessors⟩ :=
    accessorsOf_of_validate secondValid
  have sameRoot : root = other := Option.some.inj (single.symm.trans otherSingle)
  have sameDeclarations : declarations = further :=
    Option.some.inj (declared.symm.trans (alike.root.trans furtherDeclared))
  subst sameRoot sameDeclarations
  rw [firstAccessors, secondAccessors]
  refine List.map_congr_left fun ⟨key, variants⟩ isMember => ?_
  simp only
  rw [Catalog.entryFrom_congr root key variants fun locale isLocale noRoot =>
    alike.others locale isLocale noRoot declarations declared (key, variants) isMember]

/-- Two runs whose files differ in place, comments, escapes, order and a key that is ignored. -/
theorem render_eq_of_declareAlike_elsewhere :
    let sourceSet : SourceSet := {
      targetName := "Messages"
      fallback := { ignoreExtraKeys := true }
      locales := [⟨"fr", 1, "0"⟩, ⟨"", 1, "0"⟩]
    }
    let firstTree : FileTree := {
      nodes := [
        (["messages.properties"], .file "a=b\nc=d".toUTF8.data.toList),
        (["messages_fr.properties"], .file "a=e\nc=f".toUTF8.data.toList)
      ]
    }
    let secondTree : FileTree := {
      nodes := [
        (["in"], .directory),
        (["in", "messages.properties"], .file "# b\na : \\u0062\nc d".toUTF8.data.toList),
        (["in", "messages_fr.properties"], .file "c=f\nx=y\na=e".toUTF8.data.toList)
      ]
    }
    ∃ first second,
      Validation.validate sourceSet firstTree ⟨"."⟩ ⟨"out"⟩ = .ok first ∧
        Validation.validate sourceSet secondTree ⟨"in"⟩ ⟨"."⟩ = .ok second ∧
        ResourceSet.DeclareAlike sourceSet firstTree ⟨"."⟩ secondTree ⟨"in"⟩ ∧
        render first = render second := by
  intro sourceSet firstTree secondTree
  obtain ⟨first, firstValid⟩ : ∃ bundle,
      Validation.validate sourceSet firstTree ⟨"."⟩ ⟨"out"⟩ = .ok bundle :=
    Validation.exists_bundle_of_passesBeyondRules (by decide) (by decide +kernel)
  obtain ⟨second, secondValid⟩ : ∃ bundle,
      Validation.validate sourceSet secondTree ⟨"in"⟩ ⟨"."⟩ = .ok bundle :=
    Validation.exists_bundle_of_passesBeyondRules (by decide) (by decide +kernel)
  have alike : ResourceSet.DeclareAlike sourceSet firstTree ⟨"."⟩ secondTree ⟨"in"⟩ := by
    have declared :
        ResourceSet.rootDeclarations? sourceSet firstTree ⟨"."⟩ =
          some [("a", ["b"]), ("c", ["d"])] := by
      decide +kernel
    have others : ∀ locale ∈ sourceSet.locales, locale.isRoot = false →
        ∀ declaration ∈ [("a", ["b"]), ("c", ["d"])],
          ResourceSet.variantsIn? sourceSet firstTree ⟨"."⟩ locale declaration.1 =
            ResourceSet.variantsIn? sourceSet secondTree ⟨"in"⟩ locale declaration.1 := by
      decide +kernel
    refine ⟨by decide +kernel, fun locale isLocale noRoot declarations found => ?_⟩
    rw [declared, Option.some.injEq] at found
    rw [← found]
    exact others locale isLocale noRoot
  exact ⟨first, second, firstValid, secondValid, alike,
    render_eq_of_declareAlike firstValid secondValid alike⟩

end Code

end Phrasebook
