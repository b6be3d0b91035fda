import Phrasebook.Proofs.Properties.Declarations
import Phrasebook.Proofs.Result
import Phrasebook.Resources

namespace Phrasebook.ResourceSet

/-!
# What loading guarantees

Loaded resources have one place for each locale, and their root file holds the declarations that
the file of a root locale was read as.
-/

theorem properties_of_readFile
    {locale : Locale}
    {path : Path}
    {bytes : List UInt8}
    {file : ResourceFile}
    (succeeded : readFile locale path bytes = .ok file) :
    Properties.readBytes bytes = .ok file.properties := by
  unfold readFile at succeeded
  split at succeeded
  · rename_i properties readAs
    cases succeeded
    exact readAs
  · cases succeeded

theorem readBytes_of_loadRoot
    {tree : FileTree}
    {locale : Locale}
    {path : Path}
    {file : ResourceFile}
    (loaded : loadRoot tree locale path = .ok file) :
    ∃ bytes, tree.read path = .ok bytes ∧ Properties.readBytes bytes = .ok file.properties := by
  unfold loadRoot at loaded
  split at loaded
  · cases loaded
  · rename_i bytes readBytes
    exact ⟨bytes, readBytes, properties_of_readFile loaded⟩

/-- The root file is what was found for a root locale. -/
theorem mem_of_rootFile?
    {found : List (Locale × LocaleResource)}
    {file : ResourceFile}
    (rooted : rootFile? found = some file) :
    ∃ locale, (locale, .loaded file) ∈ found ∧ locale.isRoot := by
  induction found with
  | nil =>
      cases rooted
  | cons pair rest inductionHypothesis =>
      obtain ⟨locale, resource⟩ := pair
      rw [rootFile?.eq_def] at rooted
      simp only at rooted
      split at rooted
      · rename_i later laterRooted
        cases rooted
        obtain ⟨other, member, isRoot⟩ := inductionHypothesis laterRooted
        exact ⟨other, List.mem_cons_of_mem _ member, isRoot⟩
      · split at rooted
        · split at rooted
          · rename_i isRoot
            cases rooted
            exact ⟨locale, List.mem_cons_self, isRoot⟩
          · cases rooted
        · cases rooted

theorem loadRoot_of_loadLocale
    {sourceSet : SourceSet}
    {tree : FileTree}
    {input : Path}
    {locale : Locale}
    {file : ResourceFile}
    {diagnostics : List Diagnostic}
    (loaded : loadLocale sourceSet tree input locale = .ok (.loaded file, diagnostics))
    (isRoot : locale.isRoot) :
    loadRoot tree locale (filePath sourceSet input locale) = .ok file := by
  unfold loadLocale at loaded
  simp only [isRoot, if_true] at loaded
  cases root : loadRoot tree locale (filePath sourceSet input locale) with
  | error faults =>
      rw [root] at loaded
      cases loaded
  | ok found =>
      rw [root] at loaded
      cases loaded
      rfl

/-- The declarations of a file that is found for a locale. -/
theorem wellDeclared_of_loadLocale
    {sourceSet : SourceSet}
    {tree : FileTree}
    {input : Path}
    {locale : Locale}
    {file : ResourceFile}
    {diagnostics : List Diagnostic}
    (loaded : loadLocale sourceSet tree input locale = .ok (.loaded file, diagnostics)) :
    Properties.WellDeclared file.properties := by
  by_cases isRoot : locale.isRoot
  · obtain ⟨bytes, _, readAs⟩ := readBytes_of_loadRoot (loadRoot_of_loadLocale loaded isRoot)
    exact Properties.wellDeclared_of_readBytes readAs
  · simp only [loadLocale, isRoot, if_false, Bool.false_eq_true, Except.ok.injEq, loadOther]
      at loaded
    split at loaded
    · cases loaded
    · split at loaded
      · rename_i succeeded
        cases loaded
        exact Properties.wellDeclared_of_readBytes (properties_of_readFile succeeded)
      · cases loaded

/-- What is found for a locale depends on nothing but the bytes of its file. -/
theorem loadLocale_congr
    {first second : FileTree}
    {sourceSet : SourceSet}
    {input : Path}
    {locale : Locale}
    (alike :
      ∀ bytes,
        first.read (filePath sourceSet input locale) = .ok bytes ↔
          second.read (filePath sourceSet input locale) = .ok bytes) :
    loadLocale sourceSet first input locale = loadLocale sourceSet second input locale := by
  rw [loadLocale, loadLocale]
  simp only [loadRoot, loadOther]
  cases firstRead : first.read (filePath sourceSet input locale) with
  | ok bytes =>
      rw [(alike bytes).mp firstRead]
  | error fault =>
      cases secondRead : second.read (filePath sourceSet input locale) with
      | ok bytes =>
          rw [(alike bytes).mpr secondRead] at firstRead
          cases firstRead
      | error otherFault =>
          rfl

/-- Trees with the same bytes in the files of a source set have the same resources. -/
theorem load_congr
    {first second : FileTree}
    {sourceSet : SourceSet}
    {input : Path}
    (alike :
      ∀ locale ∈ sourceSet.locales, ∀ bytes,
        first.read (filePath sourceSet input locale) = .ok bytes ↔
          second.read (filePath sourceSet input locale) = .ok bytes) :
    load sourceSet first input = load sourceSet second input := by
  have sameLocales :
      sourceSet.locales.mapM (loadLocale sourceSet first input) =
        sourceSet.locales.mapM (loadLocale sourceSet second input) :=
    mapM_congr_of_mem fun locale isMember => loadLocale_congr (alike locale isMember)
  rw [load, load, sameLocales]

/-- Loaded resources hold what was found for each locale. -/
theorem forall₂_of_load
    {sourceSet : SourceSet}
    {tree : FileTree}
    {input : Path}
    {resources : ResourceSet}
    (loaded : load sourceSet tree input = .ok resources) :
    List.Forall₂
        (fun locale resource =>
          ∃ diagnostics, loadLocale sourceSet tree input locale = .ok (resource, diagnostics))
        sourceSet.locales resources.locales ∧
      rootFile? (sourceSet.locales.zip resources.locales) = some resources.root := by
  unfold load at loaded
  split at loaded
  · cases loaded
  · rename_i found locales
    simp only at loaded
    split at loaded
    · cases loaded
    · rename_i file rooted
      cases loaded
      refine ⟨List.forall₂_map_right_iff.mpr ?_, rooted⟩
      exact (forall₂_of_mapM_eq_ok locales).imp fun _ result succeeded => ⟨result.2, succeeded⟩

/-- Loaded resources are aligned with the locales, and their root file was read from the path of a
root locale. -/
theorem load_eq_ok
    {sourceSet : SourceSet}
    {tree : FileTree}
    {input : Path}
    {resources : ResourceSet}
    (loaded : load sourceSet tree input = .ok resources) :
    resources.locales.length = sourceSet.locales.length ∧
      ∃ root ∈ sourceSet.locales, root.isRoot ∧
        ∃ bytes,
          tree.read (filePath sourceSet input root) = .ok bytes ∧
          Properties.readBytes bytes = .ok resources.root.properties := by
  obtain ⟨aligned, rooted⟩ := forall₂_of_load loaded
  obtain ⟨root, member, isRoot⟩ := mem_of_rootFile? rooted
  obtain ⟨diagnostics, rootLoaded⟩ := List.forall₂_zip aligned member
  exact ⟨aligned.length_eq.symm, root, (List.of_mem_zip member).1, isRoot,
    readBytes_of_loadRoot (loadRoot_of_loadLocale rootLoaded isRoot)⟩

end Phrasebook.ResourceSet
