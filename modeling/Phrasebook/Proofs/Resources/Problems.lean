import Phrasebook.Proofs.Properties.Faults
import Phrasebook.Proofs.Resources
import Phrasebook.Proofs.Validation.Locales

namespace Phrasebook.ResourceSet

/-!
# The problems of files

The problems of a file are that it is no text, or the faults of its lines. Those of the root file
are reported alone, and also that it does not exist; those of other files are collected.
-/

/-- The problem of a faulty line. -/
def lineDiagnostic
    (locale : Locale)
    (path : Path)
    (error : Properties.LineError) :
    Diagnostic where
  kind := .parse
  message := error.fault.message
  locale := some locale.tag
  file := some path
  line := some error.line

/-- The problem of a file that is no text. -/
def textDiagnostic
    (locale : Locale)
    (path : Path) :
    Diagnostic where
  kind := .load
  message := "cannot read resource file: stream did not contain valid UTF-8"
  locale := some locale.tag
  file := some path

/-- The problems of a file that cannot be used, given its bytes. -/
inductive AreProblemsOf
    (locale : Locale)
    (path : Path)
    (bytes : List UInt8) :
    List Diagnostic →
    Prop where
  | unreadable :
      Text.decodeFile? bytes = none →
      AreProblemsOf locale path bytes [textDiagnostic locale path]
  | malformed
      {text : List Char}
      {errors : List Properties.LineError} :
      Text.decodeFile? bytes = some text →
      Properties.AreErrorsOf text errors →
      errors ≠ [] →
      AreProblemsOf locale path bytes (errors.map (lineDiagnostic locale path))

/-- The problems of a root file that cannot be used. -/
inductive AreRootProblems
    (tree : FileTree)
    (locale : Locale)
    (path : Path) :
    List Diagnostic →
    Prop where
  | missing :
      (∀ bytes, tree.read path ≠ .ok bytes) →
      AreRootProblems tree locale path [rootNotFound locale path]
  | unusable
      {bytes : List UInt8}
      {problems : List Diagnostic} :
      tree.read path = .ok bytes →
      AreProblemsOf locale path bytes problems →
      AreRootProblems tree locale path problems

/-- The problems that a locale adds to those of the other files. -/
inductive AreFileProblems
    (tree : FileTree)
    (locale : Locale)
    (path : Path) :
    List Diagnostic →
    Prop where
  | root :
      locale.isRoot →
      AreFileProblems tree locale path []
  | missing :
      (∀ bytes, tree.read path ≠ .ok bytes) →
      AreFileProblems tree locale path []
  | usable
      {bytes : List UInt8}
      {properties : List Properties.Property} :
      tree.read path = .ok bytes →
      Properties.readBytes bytes = .ok properties →
      AreFileProblems tree locale path []
  | broken
      {bytes : List UInt8}
      {problems : List Diagnostic} :
      locale.isRoot = false →
      tree.read path = .ok bytes →
      AreProblemsOf locale path bytes problems →
      AreFileProblems tree locale path problems

/-! ## One file -/

theorem readFile_eq_error_iff
    {locale : Locale}
    {path : Path}
    {bytes : List UInt8}
    {problems : List Diagnostic} :
    readFile locale path bytes = .error problems ↔ AreProblemsOf locale path bytes problems := by
  constructor
  · intro failed
    unfold readFile at failed
    split at failed
    · cases failed
    · rename_i error refused
      cases failed
      unfold Properties.readBytes at refused
      split at refused
      · rename_i undecoded
        cases refused
        exact .unreadable undecoded
      · rename_i text decoded
        split at refused
        · rename_i errors readAs
          cases refused
          obtain ⟨areErrors, nonempty⟩ := Properties.read_eq_error_iff.mp readAs
          exact .malformed decoded areErrors nonempty
        · cases refused
  · intro areProblems
    cases areProblems with
    | unreadable undecoded =>
        rw [readFile, Properties.readBytes, undecoded]
        rfl
    | malformed decoded areErrors nonempty =>
        have refused := Properties.read_eq_error_iff.mpr ⟨areErrors, nonempty⟩
        rw [readFile, Properties.readBytes, decoded]
        simp only
        rw [refused]
        rfl

theorem loadRoot_eq_error_iff
    {tree : FileTree}
    {locale : Locale}
    {path : Path}
    {problems : List Diagnostic} :
    loadRoot tree locale path = .error problems ↔ AreRootProblems tree locale path problems := by
  unfold loadRoot
  cases found : tree.read path with
  | error fault =>
      constructor
      · rintro ⟨⟩
        exact .missing (by simp [found])
      · intro areProblems
        cases areProblems with
        | missing =>
            rfl
        | unusable otherwise =>
            rw [found] at otherwise
            cases otherwise
  | ok bytes =>
      simp only [readFile_eq_error_iff]
      constructor
      · exact .unusable found
      · intro areProblems
        cases areProblems with
        | missing absent =>
            exact absurd found (absent bytes)
        | unusable otherFound unusable =>
            rw [found] at otherFound
            cases otherFound
            exact unusable

theorem AreRootProblems.ne_nil
    {tree : FileTree}
    {locale : Locale}
    {path : Path}
    {problems : List Diagnostic}
    (areProblems : AreRootProblems tree locale path problems) :
    problems ≠ [] := by
  cases areProblems with
  | missing =>
      exact List.cons_ne_nil _ _
  | unusable _ ofFile =>
      cases ofFile with
      | unreadable =>
          exact List.cons_ne_nil _ _
      | malformed _ _ nonempty =>
          exact fun empty => nonempty (List.map_eq_nil_iff.mp empty)

/-- A root file that is read as declarations has no problems. -/
theorem not_areRootProblems_of_readBytes
    {tree : FileTree}
    {locale : Locale}
    {path : Path}
    {bytes : List UInt8}
    {properties : List Properties.Property}
    (found : tree.read path = .ok bytes)
    (readAs : Properties.readBytes bytes = .ok properties)
    (problems : List Diagnostic) :
    ¬AreRootProblems tree locale path problems := by
  rw [← loadRoot_eq_error_iff, loadRoot, found]
  simp only
  rw [readFile, readAs]
  rintro ⟨⟩

/-- The problems of the file of a locale, unless it is the root file. -/
def fileProblems
    (sourceSet : SourceSet)
    (tree : FileTree)
    (input : Path)
    (locale : Locale) :
    List Diagnostic :=
  if locale.isRoot then
    []
  else
    (loadOther tree locale (filePath sourceSet input locale)).2

theorem areFileProblems_fileProblems
    (sourceSet : SourceSet)
    (tree : FileTree)
    (input : Path)
    (locale : Locale) :
    AreFileProblems tree locale (filePath sourceSet input locale)
      (fileProblems sourceSet tree input locale) := by
  unfold fileProblems
  split
  · rename_i isRoot
    exact .root isRoot
  · rename_i noRoot
    unfold loadOther
    split
    · rename_i fault found
      exact .missing (by simp [found])
    · rename_i bytes found
      split
      · rename_i file readAs
        exact .usable found (properties_of_readFile readAs)
      · rename_i problems refused
        exact .broken (Bool.eq_false_iff.mpr noRoot) found (readFile_eq_error_iff.mp refused)

/-! ## All files -/

theorem rootFile?_isSome
    {found : List (Locale × LocaleResource)}
    {locale : Locale}
    {file : ResourceFile}
    (isMember : (locale, .loaded file) ∈ found)
    (isRoot : locale.isRoot) :
    (rootFile? found).isSome := by
  induction found with
  | nil =>
      cases isMember
  | cons pair rest inductionHypothesis =>
      obtain ⟨other, resource⟩ := pair
      rw [rootFile?.eq_def]
      simp only
      split
      · rfl
      · rename_i noneLater
        rcases List.mem_cons.mp isMember with same | later
        · cases same
          simp [isRoot]
        · have found := inductionHypothesis later
          rw [noneLater] at found
          cases found

/-- A locale whose file is not the root file never makes loading fail. -/
theorem loadLocale_eq_error_iff
    {sourceSet : SourceSet}
    {tree : FileTree}
    {input : Path}
    {locale : Locale}
    {problems : List Diagnostic} :
    loadLocale sourceSet tree input locale = .error problems ↔
      locale.isRoot ∧ AreRootProblems tree locale (filePath sourceSet input locale) problems := by
  rw [← loadRoot_eq_error_iff, loadLocale]
  cases isRoot : locale.isRoot with
  | false =>
      simp
  | true =>
      cases loadRoot tree locale (filePath sourceSet input locale) <;> simp [Except.map]

theorem loadLocale_eq_ok
    {sourceSet : SourceSet}
    {tree : FileTree}
    {input : Path}
    {locale : Locale}
    {result : LocaleResource × List Diagnostic}
    (loaded : loadLocale sourceSet tree input locale = .ok result) :
    result.2 = fileProblems sourceSet tree input locale ∧
      (locale.isRoot → ∃ file, result.1 = .loaded file) := by
  unfold loadLocale at loaded
  unfold fileProblems
  split
  · rename_i isRoot
    rw [if_pos isRoot] at loaded
    cases rootLoaded : loadRoot tree locale (filePath sourceSet input locale) with
    | error problems =>
        rw [rootLoaded] at loaded
        cases loaded
    | ok file =>
        rw [rootLoaded] at loaded
        cases loaded
        exact ⟨rfl, fun _ => ⟨file, rfl⟩⟩
  · rename_i noRoot
    rw [if_neg noRoot] at loaded
    cases loaded
    exact ⟨rfl, fun isRoot => absurd isRoot noRoot⟩

/-- If loading fails, the root file cannot be used. -/
theorem areRootProblems_of_load
    {sourceSet : SourceSet}
    {tree : FileTree}
    {input : Path}
    {root : Locale}
    {problems : List Diagnostic}
    (single : sourceSet.root? = some root)
    (failed : load sourceSet tree input = .error problems) :
    AreRootProblems tree root (filePath sourceSet input root) problems := by
  have rooted := Validation.isRootIndex_of_root? single
  unfold load at failed
  split at failed
  · rename_i faults localesFailed
    cases failed
    obtain ⟨before, locale, after, results, shape, _, localeFailed⟩ :=
      mapM_eq_error_iff.mp localesFailed
    obtain ⟨isRoot, areProblems⟩ := loadLocale_eq_error_iff.mp localeFailed
    have placed : sourceSet.locales[before.length]? = some locale := by
      rw [shape]
      simp
    have here := rooted.only before.length locale placed isRoot
    rw [here, rooted.placed] at placed
    cases placed
    exact areProblems
  · rename_i found localesLoaded
    simp only at failed
    split at failed
    · -- This does not happen: the root file is among those that were loaded.
      rename_i noRootFile
      have all := forall₂_of_mapM_eq_ok localesLoaded
      obtain ⟨inside, _⟩ := List.getElem?_eq_some_iff.mp rooted.placed
      rw [all.length_eq] at inside
      have pair : (root, found[Catalog.rootIndexOf sourceSet]) ∈ sourceSet.locales.zip found :=
        List.mem_of_getElem?
          (List.getElem?_zip_eq_some.mpr ⟨rooted.placed, List.getElem?_eq_getElem inside⟩)
      obtain ⟨file, isLoaded⟩ := (loadLocale_eq_ok (List.forall₂_zip all pair)).2 rooted.isRoot
      have filePair : (root, .loaded file) ∈ sourceSet.locales.zip (found.map Prod.fst) := by
        rw [List.zip_map_right, ← isLoaded]
        exact List.mem_map.mpr ⟨_, pair, rfl⟩
      have rootFound := rootFile?_isSome filePair rooted.isRoot
      rw [noRootFile] at rootFound
      cases rootFound
    · cases failed

/-- Loading fails just if the root file cannot be used, and then with the problems of that file
alone. -/
theorem load_eq_error_iff
    {sourceSet : SourceSet}
    {tree : FileTree}
    {input : Path}
    {root : Locale}
    {problems : List Diagnostic}
    (single : sourceSet.root? = some root) :
    load sourceSet tree input = .error problems ↔
      AreRootProblems tree root (filePath sourceSet input root) problems := by
  refine ⟨areRootProblems_of_load single, fun areProblems => ?_⟩
  have rooted := Validation.isRootIndex_of_root? single
  have rootFailed := loadRoot_eq_error_iff.mpr areProblems
  cases outcome : load sourceSet tree input with
  | error others =>
      have othersFailed := loadRoot_eq_error_iff.mpr (areRootProblems_of_load single outcome)
      rw [rootFailed] at othersFailed
      cases othersFailed
      rfl
  | ok resources =>
      obtain ⟨_, _, rootLoaded⟩ :=
        exists_related_of_mem (forall₂_of_load outcome).1 (List.mem_of_getElem? rooted.placed)
      obtain ⟨_, succeeded⟩ := rootLoaded
      have failed := loadLocale_eq_error_iff.mpr ⟨rooted.isRoot, areProblems⟩
      rw [failed] at succeeded
      cases succeeded

/-- The problems of the files are those of one locale after another. -/
theorem diagnostics_of_load
    {sourceSet : SourceSet}
    {tree : FileTree}
    {input : Path}
    {resources : ResourceSet}
    (loaded : load sourceSet tree input = .ok resources) :
    resources.diagnostics = sourceSet.locales.flatMap (fileProblems sourceSet tree input) := by
  unfold load at loaded
  split at loaded
  · cases loaded
  · rename_i found localesLoaded
    simp only at loaded
    split at loaded
    · cases loaded
    · cases loaded
      have all := forall₂_of_mapM_eq_ok localesLoaded
      have same :
          found.map Prod.snd = sourceSet.locales.map (fileProblems sourceSet tree input) := by
        rw [← List.forall₂_eq_eq_eq, List.forall₂_map_left_iff, List.forall₂_map_right_iff]
        exact (List.Forall₂.flip all).imp fun result locale localeLoaded =>
          (loadLocale_eq_ok localeLoaded).1
      rw [List.flatMap_def, List.flatMap_def, same]

theorem filePath_congr
    {first second : SourceSet}
    {firstLocale secondLocale : Locale}
    (format : first.fileNameFormat = second.fileNameFormat)
    (tag : firstLocale.tag = secondLocale.tag)
    (input : Path) :
    filePath first input firstLocale = filePath second input secondLocale := by
  rw [filePath, filePath, SourceSet.fileName, SourceSet.fileName, format,
    Locale.fileSuffix_congr tag]

/-- The problems of the file of a locale depend on its tag and the bytes of its file. -/
theorem fileProblems_congr
    {first second : SourceSet}
    {firstTree secondTree : FileTree}
    {firstLocale secondLocale : Locale}
    {input : Path}
    (format : first.fileNameFormat = second.fileNameFormat)
    (tag : firstLocale.tag = secondLocale.tag)
    (alike :
      firstLocale.isRoot = false →
        ∀ bytes,
          firstTree.read (filePath first input firstLocale) = .ok bytes ↔
            secondTree.read (filePath first input firstLocale) = .ok bytes) :
    fileProblems first firstTree input firstLocale =
      fileProblems second secondTree input secondLocale := by
  unfold fileProblems
  rw [← Locale.isRoot_congr tag, ← filePath_congr format tag input]
  split
  · rfl
  · rename_i noRoot
    have reads := alike (Bool.eq_false_iff.mpr noRoot)
    have sameRead (bytes : List UInt8) :
        readFile firstLocale (filePath first input firstLocale) bytes =
          readFile secondLocale (filePath first input firstLocale) bytes := by
      simp only [readFile, fileDiagnostics, tag]
    unfold loadOther
    cases firstRead : firstTree.read (filePath first input firstLocale) with
    | ok bytes =>
        rw [(reads bytes).mp firstRead]
        simp only [sameRead]
    | error fault =>
        cases secondRead : secondTree.read (filePath first input firstLocale) with
        | ok bytes =>
            rw [(reads bytes).mpr secondRead] at firstRead
            cases firstRead
        | error otherFault =>
            rfl

end Phrasebook.ResourceSet
