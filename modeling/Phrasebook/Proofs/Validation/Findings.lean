import Phrasebook.Proofs.Catalog.Isolation
import Phrasebook.Proofs.Resources.Problems
import Phrasebook.Proofs.Validation.Bundle

namespace Phrasebook.Validation

/-!
# Validation reports everything

A root file that cannot be used is reported alone. Otherwise every check is made, whatever the other
checks find, and everything that is found is reported in the order of the checks; validation
succeeds just if nothing is found.
-/

/-! ## What the checks find -/

/-- What the checks look at, once the resources of a source set have been loaded. -/
structure Inspection where
  sourceSet : SourceSet
  tree : FileTree
  input : Path
  output : Path
  resources : ResourceSet

/-- What is found by each check, in the order of the checks. -/
structure Findings where
  locales : List Diagnostic
  files : List Diagnostic
  rules : List Diagnostic
  catalog : List Diagnostic
  names : List Diagnostic
  target : List Diagnostic
  output : List Diagnostic

/-- Everything that is found. -/
def Findings.all
    (findings : Findings) :
    List Diagnostic :=
  findings.locales ++ findings.files ++ findings.rules ++ findings.catalog ++ findings.names ++
    findings.target ++ findings.output

/-- What is found about the name of a target. -/
def targetFindings
    (text : String) :
    List Diagnostic :=
  match checkTarget text with
  | .error diagnostic => [diagnostic]
  | .ok _ => []

/-- What is found about the place of the generated file, if the target has a name. -/
def outputFindings
    (tree : FileTree)
    (output : Path)
    (text : String) :
    List Diagnostic :=
  match checkTarget text with
  | .error _ => []
  | .ok target => outputDiagnostics tree output (artifactPath output target)

namespace Inspection

/-- The catalog that is checked. -/
def catalog
    (inspection : Inspection) :
    Catalog :=
  Catalog.build inspection.sourceSet inspection.resources

/-- The findings of an inspection. -/
def findings
    (inspection : Inspection) :
    Findings where
  locales := localeDiagnostics inspection.sourceSet
  files := inspection.resources.diagnostics
  rules := inspection.sourceSet.locales.flatMap ruleDiagnostics
  catalog := inspection.catalog.diagnostics
  names :=
    nameDiagnostics inspection.sourceSet.naming inspection.resources.root.path inspection.catalog
  target := targetFindings inspection.sourceSet.targetName
  output := outputFindings inspection.tree inspection.output inspection.sourceSet.targetName

/-- Whether an inspection can be made: there is one root locale, and the resources are loaded. -/
structure IsMade
    (inspection : Inspection) :
    Prop where
  rooted : ∃ root, inspection.sourceSet.root? = some root
  loaded :
    ResourceSet.load inspection.sourceSet inspection.tree inspection.input =
      .ok inspection.resources

end Inspection

theorem all_findings
    (inspection : Inspection) :
    inspection.findings.all =
      diagnostics inspection.sourceSet inspection.tree inspection.output inspection.resources
        inspection.catalog := by
  have target :
      targetDiagnostics inspection.tree inspection.output inspection.sourceSet.targetName =
        targetFindings inspection.sourceSet.targetName ++
          outputFindings inspection.tree inspection.output inspection.sourceSet.targetName := by
    unfold targetDiagnostics targetFindings outputFindings
    cases checkTarget inspection.sourceSet.targetName <;> simp
  simp only [Findings.all, Inspection.findings, diagnostics, target, List.append_assoc]

/-! ## What each check depends on -/

/-- A locale without its plural rule. -/
def withoutRule
    (locale : Locale) :
    Locale where
  tag := locale.tag
  pluralForms := locale.pluralForms
  pluralSource := ""

theorem variantDiagnostics_withoutRule
    (earlier : List Locale)
    (locale : Locale) :
    variantDiagnostics (earlier.map withoutRule) (withoutRule locale) =
      variantDiagnostics earlier locale := by
  unfold variantDiagnostics
  rw [List.find?_map]
  have same :
      (fun other : Locale => other.variantName == (withoutRule locale).variantName) ∘ withoutRule =
        fun other : Locale => other.variantName == locale.variantName :=
    rfl
  rw [same]
  cases earlier.find? fun other => other.variantName == locale.variantName <;> rfl

theorem localeDiagnosticsAfter_withoutRule
    (earlier locales : List Locale) :
    localeDiagnosticsAfter (earlier.map withoutRule) (locales.map withoutRule) =
      localeDiagnosticsAfter earlier locales := by
  induction locales generalizing earlier with
  | nil =>
      rfl
  | cons locale locales inductionHypothesis =>
      have repetitions :
          repetitionDiagnostics (earlier.map withoutRule) (withoutRule locale) =
            repetitionDiagnostics earlier locale := by
        unfold repetitionDiagnostics
        rw [List.any_map]
        rfl
      have further := inductionHypothesis (locale :: earlier)
      rw [List.map_cons] at further
      rw [List.map_cons, localeDiagnosticsAfter, localeDiagnosticsAfter, further, repetitions,
        variantDiagnostics_withoutRule]
      rfl

/-- The checks of the locales do not look at plural rules. -/
theorem localeDiagnostics_congr
    {first second : SourceSet}
    (settings : first.locales.map withoutRule = second.locales.map withoutRule)
    (format : first.fileNameFormat = second.fileNameFormat) :
    localeDiagnostics first = localeDiagnostics second := by
  have count : first.locales.length = second.locales.length := by
    simpa using congrArg List.length settings
  have each :
      localeDiagnosticsAfter [] first.locales = localeDiagnosticsAfter [] second.locales := by
    rw [← localeDiagnosticsAfter_withoutRule, settings, localeDiagnosticsAfter_withoutRule]
  rw [localeDiagnostics, localeDiagnostics, each, formatDiagnostics, formatDiagnostics, count,
    format]

/-- The problems of the files other than the root file depend on what is in these files. -/
theorem fileProblems_flatMap_congr
    {first second : SourceSet}
    {firstTree secondTree : FileTree}
    {input : Path}
    (tags : first.locales.map Locale.tag = second.locales.map Locale.tag)
    (format : first.fileNameFormat = second.fileNameFormat)
    (alike :
      ∀ locale ∈ first.locales, locale.isRoot = false →
        ∀ bytes,
          firstTree.read (ResourceSet.filePath first input locale) = .ok bytes ↔
            secondTree.read (ResourceSet.filePath first input locale) = .ok bytes) :
    first.locales.flatMap (ResourceSet.fileProblems first firstTree input) =
      second.locales.flatMap (ResourceSet.fileProblems second secondTree input) := by
  have aligned :
      List.Forall₂ (fun (one other : Locale) => one.tag = other.tag) first.locales
        second.locales := by
    rw [← List.forall₂_eq_eq_eq, List.forall₂_map_left_iff, List.forall₂_map_right_iff] at tags
    exact tags
  rw [List.flatMap_def, List.flatMap_def]
  refine congrArg List.flatten ?_
  rw [← List.forall₂_eq_eq_eq, List.forall₂_map_left_iff, List.forall₂_map_right_iff]
  refine List.forall₂_iff_zip.mpr ⟨aligned.length_eq, fun {one other} paired => ?_⟩
  exact ResourceSet.fileProblems_congr format (List.forall₂_zip aligned paired)
    (alike one (List.of_mem_zip paired).1)

/-- The root locales of source sets whose locales agree but for plural rules agree likewise. -/
theorem root_congr
    {first second : SourceSet}
    {firstRoot secondRoot : Locale}
    (firstSingle : first.root? = some firstRoot)
    (secondSingle : second.root? = some secondRoot)
    (settings : first.locales.map withoutRule = second.locales.map withoutRule) :
    withoutRule firstRoot = withoutRule secondRoot := by
  have firstRooted := isRootIndex_of_root? firstSingle
  have secondRooted := isRootIndex_of_root? secondSingle
  have placed :
      (second.locales.map withoutRule)[Catalog.rootIndexOf first]? =
        some (withoutRule firstRoot) := by
    rw [← settings, List.getElem?_map, firstRooted.placed]
    rfl
  rw [List.getElem?_map] at placed
  obtain ⟨locale, localePlaced, same⟩ := Option.map_eq_some_iff.mp placed
  have isRoot : (withoutRule locale).isRoot := by
    rw [same]
    exact firstRooted.isRoot
  have here := secondRooted.only _ locale localePlaced isRoot
  rw [here, secondRooted.placed] at localePlaced
  cases localePlaced
  exact same.symm

theorem localesDiagnostics_withoutRule
    (sourceSet : SourceSet)
    (entries : List RootEntry)
    (locales : List Locale)
    (resources : List LocaleResource) :
    (((locales.map withoutRule).zip resources).flatMap fun (locale, resource) =>
        Catalog.localeDiagnostics sourceSet entries locale resource) =
      (locales.zip resources).flatMap fun (locale, resource) =>
        Catalog.localeDiagnostics sourceSet entries locale resource := by
  rw [List.zip_map_left, List.flatMap_map]
  exact List.flatMap_congr fun pair _ =>
    Catalog.localeDiagnostics_congr rfl rfl rfl rfl entries pair.2

/-- The problems of a catalog do not depend on plural rules. -/
theorem catalogDiagnostics_congr
    {first second : SourceSet}
    {firstResources secondResources : ResourceSet}
    {firstRoot secondRoot : Locale}
    (firstSingle : first.root? = some firstRoot)
    (secondSingle : second.root? = some secondRoot)
    (settings : first.locales.map withoutRule = second.locales.map withoutRule)
    (transformer : first.transformer = second.transformer)
    (fallback : first.fallback = second.fallback)
    (root : firstResources.root = secondResources.root)
    (locales : firstResources.locales = secondResources.locales) :
    (Catalog.build first firstResources).diagnostics =
      (Catalog.build second secondResources).diagnostics := by
  have sameRoot := root_congr firstSingle secondSingle settings
  have tag : firstRoot.tag = secondRoot.tag := by
    simpa [withoutRule] using congrArg Locale.tag sameRoot
  have forms : firstRoot.pluralForms = secondRoot.pluralForms := by
    simpa [withoutRule] using congrArg Locale.pluralForms sameRoot
  have ofRoot :
      firstResources.root.properties.flatMap
          (Catalog.rootDiagnostics first firstRoot firstResources.root) =
        secondResources.root.properties.flatMap
          (Catalog.rootDiagnostics second secondRoot secondResources.root) := by
    rw [root]
    exact List.flatMap_congr fun property _ =>
      Catalog.rootDiagnostics_congr transformer tag forms _ property
  have entries :=
    Catalog.rootEntries_congr transformer (congrArg ResourceFile.properties root) firstRoot
      secondRoot
  rw [Catalog.diagnostics_build firstResources (isRootIndex_of_root? firstSingle).placed,
    Catalog.diagnostics_build secondResources (isRootIndex_of_root? secondSingle).placed, ofRoot,
    entries, locales, ← localesDiagnostics_withoutRule, settings, localesDiagnostics_withoutRule]
  refine congrArg _ (List.flatMap_congr fun pair _ => ?_)
  exact Catalog.localeDiagnostics_congr transformer fallback rfl rfl _ pair.2

/-- An entry without overrides. -/
def withoutOverrides
    (entry : CatalogEntry) :
    CatalogEntry where
  toRootEntry := entry.toRootEntry
  overrides := []

theorem nameDiagnosticsAfter_withoutOverrides
    (naming : Naming)
    (rootFile : Path)
    (given : GivenNames)
    (entries : List CatalogEntry) :
    nameDiagnosticsAfter naming rootFile given (entries.map withoutOverrides) =
      nameDiagnosticsAfter naming rootFile given entries := by
  induction entries generalizing given with
  | nil =>
      rfl
  | cons entry entries inductionHypothesis =>
      rw [List.map_cons, nameDiagnosticsAfter, nameDiagnosticsAfter, inductionHypothesis]
      rfl

/-- The checks of the names look at nothing but what the root file says about each key. -/
theorem nameDiagnostics_congr
    {first second : Catalog}
    (entries :
      first.entries.map CatalogEntry.toRootEntry = second.entries.map CatalogEntry.toRootEntry)
    (naming : Naming)
    (rootFile : Path) :
    nameDiagnostics naming rootFile first = nameDiagnostics naming rootFile second := by
  have same : first.entries.map withoutOverrides = second.entries.map withoutOverrides := by
    have parts (catalog : Catalog) :
        catalog.entries.map withoutOverrides =
          (catalog.entries.map CatalogEntry.toRootEntry).map fun entry => ⟨entry, []⟩ := by
      rw [List.map_map]
      rfl
    rw [parts, parts, entries]
  rw [nameDiagnostics, nameDiagnostics, ← nameDiagnosticsAfter_withoutOverrides, same,
    nameDiagnosticsAfter_withoutOverrides]

/-- Whether two inspections find the same in each check for which they have the same to look at,
whatever the other checks find. -/
structure FindSeparately
    (first second : Inspection) :
    Prop where
  locales :
    first.sourceSet.locales.map withoutRule = second.sourceSet.locales.map withoutRule →
    first.sourceSet.fileNameFormat = second.sourceSet.fileNameFormat →
    first.findings.locales = second.findings.locales
  files :
    first.sourceSet.locales.map Locale.tag = second.sourceSet.locales.map Locale.tag →
    first.sourceSet.fileNameFormat = second.sourceSet.fileNameFormat →
    first.input = second.input →
    (∀ locale ∈ first.sourceSet.locales, locale.isRoot = false →
      ∀ bytes,
        first.tree.read (ResourceSet.filePath first.sourceSet first.input locale) = .ok bytes ↔
          second.tree.read (ResourceSet.filePath first.sourceSet first.input locale) =
            .ok bytes) →
    first.findings.files = second.findings.files
  rules :
    first.sourceSet.locales = second.sourceSet.locales →
    first.findings.rules = second.findings.rules
  catalog :
    first.sourceSet.locales.map withoutRule = second.sourceSet.locales.map withoutRule →
    first.sourceSet.transformer = second.sourceSet.transformer →
    first.sourceSet.fallback = second.sourceSet.fallback →
    first.resources.root = second.resources.root →
    first.resources.locales = second.resources.locales →
    first.findings.catalog = second.findings.catalog
  names :
    first.sourceSet.naming = second.sourceSet.naming →
    first.sourceSet.transformer = second.sourceSet.transformer →
    first.resources.root = second.resources.root →
    first.findings.names = second.findings.names

theorem findSeparately_of_isMade
    {first second : Inspection}
    (firstMade : first.IsMade)
    (secondMade : second.IsMade) :
    FindSeparately first second := by
  obtain ⟨⟨firstRoot, firstSingle⟩, firstLoaded⟩ := firstMade
  obtain ⟨⟨secondRoot, secondSingle⟩, secondLoaded⟩ := secondMade
  refine ⟨?locales, ?files, ?rules, ?catalog, ?names⟩
  case locales =>
    exact localeDiagnostics_congr
  case files =>
    intro tags format input alike
    have firstFiles := ResourceSet.diagnostics_of_load firstLoaded
    have secondFiles := ResourceSet.diagnostics_of_load secondLoaded
    rw [Inspection.findings, Inspection.findings, firstFiles, secondFiles, ← input]
    exact fileProblems_flatMap_congr tags format alike
  case rules =>
    intro locales
    rw [Inspection.findings, Inspection.findings, locales]
  case catalog =>
    exact catalogDiagnostics_congr firstSingle secondSingle
  case names =>
    intro naming transformer root
    have entries :
        first.catalog.entries.map CatalogEntry.toRootEntry =
          second.catalog.entries.map CatalogEntry.toRootEntry := by
      rw [Inspection.catalog, Inspection.catalog,
        Catalog.entries_build _ (isRootIndex_of_root? firstSingle).placed,
        Catalog.entries_build _ (isRootIndex_of_root? secondSingle).placed, List.map_map,
        List.map_map]
      exact Catalog.rootEntries_congr transformer (congrArg ResourceFile.properties root) firstRoot
        secondRoot
    rw [Inspection.findings, Inspection.findings, naming, root]
    exact nameDiagnostics_congr entries _ _

/-! ## Reports -/

/-- Whether a result reports all that an inspection finds. Each file other than the root file has
its own part in it, and each plural rule one problem at most. -/
structure ReportsFindings
    (inspection : Inspection)
    (result : Except (List Diagnostic) Bundle) :
    Prop where
  succeeds : (∃ bundle, result = .ok bundle) ↔ inspection.findings.all = []
  fails : inspection.findings.all ≠ [] → result = .error inspection.findings.all
  files :
    ∃ problems,
      List.Forall₂
          (fun locale =>
            ResourceSet.AreFileProblems inspection.tree locale
              (ResourceSet.filePath inspection.sourceSet inspection.input locale))
          inspection.sourceSet.locales problems ∧
        inspection.findings.files = problems.flatten
  rules :
    ∀ locale ∈ inspection.sourceSet.locales, (ruleDiagnostics locale).length ≤ 1
  separate : ∀ other : Inspection, other.IsMade → FindSeparately inspection other

/-- Whether a result of validation hides no problem. -/
structure Reports
    (sourceSet : SourceSet)
    (tree : FileTree)
    (input output : Path)
    (result : Except (List Diagnostic) Bundle) :
    Prop where
  nonempty : result ≠ .error []
  unusableRoot :
    ∀ root problems,
      sourceSet.root? = some root →
      ResourceSet.AreRootProblems tree root (ResourceSet.filePath sourceSet input root) problems →
      result = .error problems
  usableRoot :
    ∀ root bytes properties,
      sourceSet.root? = some root →
      tree.read (ResourceSet.filePath sourceSet input root) = .ok bytes →
      Properties.readBytes bytes = .ok properties →
      ∃ resources,
        ResourceSet.load sourceSet tree input = .ok resources ∧
        ReportsFindings ⟨sourceSet, tree, input, output, resources⟩ result

theorem length_ruleDiagnostics_le
    (locale : Locale) :
    (ruleDiagnostics locale).length ≤ 1 := by
  unfold ruleDiagnostics rangeDiagnostics
  split
  · exact Nat.le_refl 1
  · split
    · exact Nat.zero_le 1
    · split
      · exact Nat.zero_le 1
      · exact Nat.le_refl 1

/-- Validation fails with what is found once the resources have been loaded. -/
theorem validate_of_findings
    {sourceSet : SourceSet}
    {tree : FileTree}
    {input output : Path}
    {root : Locale}
    {resources : ResourceSet}
    (single : sourceSet.root? = some root)
    (loaded : ResourceSet.load sourceSet tree input = .ok resources)
    (found :
      diagnostics sourceSet tree output resources (Catalog.build sourceSet resources) ≠ []) :
    validate sourceSet tree input output =
      .error
        (diagnostics sourceSet tree output resources (Catalog.build sourceSet resources)) := by
  rw [validate, single]
  simp only
  rw [loaded]
  simp only
  split
  · rename_i silent _
    exact absurd silent found
  · rfl

/-- What is found once the resources have been loaded is all reported. -/
theorem reportsFindings_of_load
    {sourceSet : SourceSet}
    {tree : FileTree}
    {input output : Path}
    {root : Locale}
    {resources : ResourceSet}
    (single : sourceSet.root? = some root)
    (loaded : ResourceSet.load sourceSet tree input = .ok resources) :
    ReportsFindings ⟨sourceSet, tree, input, output, resources⟩
      (validate sourceSet tree input output) := by
  let inspection : Inspection := ⟨sourceSet, tree, input, output, resources⟩
  have all :
      inspection.findings.all =
        diagnostics sourceSet tree output resources (Catalog.build sourceSet resources) :=
    all_findings inspection
  have fails (found : inspection.findings.all ≠ []) :
      validate sourceSet tree input output = .error inspection.findings.all := by
    rw [all] at found ⊢
    exact validate_of_findings single loaded found
  refine ⟨⟨?_, fun silent => ?_⟩, fails, ?_, ?_, ?_⟩
  · rintro ⟨bundle, succeeded⟩
    by_contra found
    rw [fails found] at succeeded
    cases succeeded
  · exact exists_bundle_of_silent single loaded (all.symm.trans silent)
  · refine ⟨sourceSet.locales.map (ResourceSet.fileProblems sourceSet tree input), ?_, ?_⟩
    · rw [List.forall₂_map_right_iff, List.forall₂_same]
      exact fun locale _ => ResourceSet.areFileProblems_fileProblems sourceSet tree input locale
    · rw [← List.flatMap_def]
      exact ResourceSet.diagnostics_of_load loaded
  · exact fun locale _ => length_ruleDiagnostics_le locale
  · exact fun other otherMade => findSeparately_of_isMade ⟨⟨root, single⟩, loaded⟩ otherMade

/-- Validation reports every problem of a source set and its files, or those of a root file that
cannot be used, and never fails without a problem. -/
theorem reports_validate
    (sourceSet : SourceSet)
    (tree : FileTree)
    (input output : Path) :
    Reports sourceSet tree input output (validate sourceSet tree input output) where
  nonempty := by
    intro failed
    cases single : sourceSet.root? with
    | none =>
        rw [validate, single] at failed
        cases failed
    | some root =>
        cases outcome : ResourceSet.load sourceSet tree input with
        | error problems =>
            rw [validate, single] at failed
            simp only at failed
            rw [outcome] at failed
            cases failed
            exact (ResourceSet.areRootProblems_of_load single outcome).ne_nil rfl
        | ok resources =>
            have reports :
                ReportsFindings ⟨sourceSet, tree, input, output, resources⟩
                  (validate sourceSet tree input output) :=
              reportsFindings_of_load single outcome
            rcases Classical.em
                ((Inspection.mk sourceSet tree input output resources).findings.all = []) with
              silent | found
            · obtain ⟨bundle, succeeded⟩ := reports.succeeds.mpr silent
              rw [failed] at succeeded
              cases succeeded
            · have all := reports.fails found
              rw [failed] at all
              exact found (Except.error.inj all).symm
  unusableRoot := by
    intro root problems single areProblems
    have failed := (ResourceSet.load_eq_error_iff single).mpr areProblems
    rw [validate, single]
    simp only
    rw [failed]
  usableRoot := by
    intro root bytes properties single found readAs
    cases outcome : ResourceSet.load sourceSet tree input with
    | error problems =>
        have areProblems := ResourceSet.areRootProblems_of_load single outcome
        exact absurd areProblems
          (ResourceSet.not_areRootProblems_of_readBytes found readAs problems)
    | ok resources =>
        exact ⟨resources, rfl, reportsFindings_of_load single outcome⟩

end Phrasebook.Validation
