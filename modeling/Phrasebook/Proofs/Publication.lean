import Mathlib
import Phrasebook.Proofs.FileTree.Writing
import Phrasebook.Proofs.Validation.Bundle
import Phrasebook.Proofs.Validation.Output
import Phrasebook.Publication

namespace Phrasebook.Publication

open FileTree

/-!
# What publication does to files

A run gives one file its bytes, or it changes no file at all. A run that follows a successful one
finds what that one left, unless the resources are among the generated files.
-/

/-! ## Publishing bytes -/

theorem holds_iff
    {tree : FileTree}
    {path : Path}
    {bytes : List UInt8} :
    holds tree path bytes ↔ tree.read path = .ok bytes := by
  rw [read_eq_ok, holds, find?]
  cases tree.locate path with
  | error fault =>
      simp
  | ok location =>
      simp only [Except.ok.injEq, exists_eq_left']
      split
      · rename_i existing same
        simp [same]
      · rename_i noFile
        simpa using noFile bytes

/-- Creating the directory of a file changes a tree only as creating directories does. -/
theorem createParent_eq
    (tree : FileTree)
    (path : Path) :
    (createParent tree path).1 = tree ∨
      ∃ directory, (createParent tree path).1 = remaining (tree.createDirectories directory) := by
  rw [createParent]
  split
  · exact .inl rfl
  · rename_i directory _
    refine .inr ⟨directory, ?_⟩
    cases tree.createDirectories directory <;> rfl

theorem addsDirectories_createParent
    (tree : FileTree)
    (path : Path) :
    AddsDirectories tree (createParent tree path).1 := by
  rcases createParent_eq tree path with same | ⟨directory, same⟩
  · rw [same]
    exact .refl tree
  · rw [same]
    exact addsDirectories_createDirectories tree directory

theorem isTree_createParent
    {tree : FileTree}
    (isTree : tree.IsTree)
    (path : Path) :
    (createParent tree path).1.IsTree := by
  rcases createParent_eq tree path with same | ⟨directory, same⟩
  · rwa [same]
  · rw [same]
    exact isTree.createDirectories directory

/-- What publishing does to a tree, and what it answers. -/
inductive Publishes
    (tree : FileTree)
    (path : Path)
    (bytes : List UInt8) :
    FileTree →
    Except Failure Generated →
    Prop where
  | kept
      (same : tree.read path = .ok bytes) :
      Publishes tree path bytes tree (.ok (.unchanged path))
  | replaced
      {created after : FileTree}
      (differs : tree.read path ≠ .ok bytes)
      (adds : AddsDirectories tree created)
      (remains : tree.IsTree → created.IsTree)
      (written : created.write path bytes = .ok after) :
      Publishes tree path bytes after (.ok (.written path))
  | failed
      {created : FileTree}
      {failure : Failure}
      (differs : tree.read path ≠ .ok bytes)
      (adds : AddsDirectories tree created)
      (remains : tree.IsTree → created.IsTree) :
      Publishes tree path bytes created (.error failure)

theorem publishes_publish
    (tree : FileTree)
    (path : Path)
    (bytes : List UInt8) :
    Publishes tree path bytes (publish tree path bytes).1 (publish tree path bytes).2 := by
  rw [publish]
  split
  · rename_i same
    exact .kept (holds_iff.mp same)
  rename_i differs
  have differs : tree.read path ≠ .ok bytes := mt holds_iff.mpr differs
  have adds := addsDirectories_createParent tree path
  have remains := fun isTree : tree.IsTree => isTree_createParent isTree path
  split
  · rename_i left failure interrupted
    rw [interrupted] at adds remains
    exact .failed differs adds remains
  · rename_i created succeeded
    rw [succeeded] at adds remains
    split
    · exact .failed differs adds remains
    · rename_i after written
      exact .replaced differs adds remains written

namespace Publishes

variable
  {tree after : FileTree}
  {path : Path}
  {bytes : List UInt8}

/-- A file that is published has its bytes, and no other file changes. -/
theorem gains
    {generated : Generated}
    (publishes : Publishes tree path bytes after (.ok generated)) :
    generated.path = path ∧ Gains path bytes tree after := by
  cases publishes with
  | kept same =>
      exact ⟨rfl, .of_read same⟩
  | replaced differs adds remains written =>
      exact ⟨rfl, .of_write adds written⟩

/-- A failure changes no file. -/
theorem fileAt?_eq
    {failure : Failure}
    (publishes : Publishes tree path bytes after (.error failure))
    (location : Location) :
    after.fileAt? location = tree.fileAt? location := by
  cases publishes with
  | failed differs adds remains =>
      exact (adds.nodes location).fileAt?_eq

theorem unchanged_iff
    {answer : Except Failure Generated}
    (publishes : Publishes tree path bytes after answer)
    {other : Path} :
    answer = .ok (.unchanged other) ↔ path = other ∧ tree.read path = .ok bytes := by
  cases publishes with
  | kept same =>
      simp [same]
  | replaced differs adds remains written =>
      simp [differs]
  | failed differs adds remains =>
      simp [differs]

theorem isTree
    {answer : Except Failure Generated}
    (publishes : Publishes tree path bytes after answer)
    (isTree : tree.IsTree) :
    after.IsTree := by
  cases publishes with
  | kept same =>
      exact isTree
  | replaced differs adds remains written =>
      exact (remains isTree).write written
  | failed differs adds remains =>
      exact remains isTree

theorem workingDirectory
    {answer : Except Failure Generated}
    (publishes : Publishes tree path bytes after answer) :
    after.workingDirectory = tree.workingDirectory := by
  cases publishes with
  | kept same =>
      rfl
  | replaced differs adds remains written =>
      exact (Gains.of_write adds written).workingDirectory
  | failed differs adds remains =>
      exact adds.workingDirectory

end Publishes

/-! ## Runs -/

variable
  {sourceSet : SourceSet}
  {tree after : FileTree}
  {input output : Path}
  {bundle : Bundle}

theorem validate_eq_ok_iff :
    validate sourceSet tree input output = .ok bundle ↔
      Validation.validate sourceSet tree input output = .ok bundle := by
  rw [validate]
  cases Validation.validate sourceSet tree input output with
  | error diagnostics =>
      simp
  | ok found =>
      simp

theorem generate_of_invalid
    {failure : Failure}
    (invalid : validate sourceSet tree input output = .error failure) :
    generate sourceSet tree input output = (tree, .error failure) := by
  rw [generate, invalid]

theorem generate_of_valid
    (validated : validate sourceSet tree input output = .ok bundle) :
    generate sourceSet tree input output =
      publish tree bundle.artifact (artifactBytes bundle) := by
  rw [generate, validated]

theorem publishes_of_valid
    {answer : Except Failure Generated}
    (validated : validate sourceSet tree input output = .ok bundle)
    (generated : generate sourceSet tree input output = (after, answer)) :
    Publishes tree bundle.artifact (artifactBytes bundle) after answer := by
  have publishes := publishes_publish tree bundle.artifact (artifactBytes bundle)
  rwa [← generate_of_valid validated, generated] at publishes

/-- A run that succeeds publishes the code of a valid bundle. -/
theorem gains_of_generate
    {answer : Generated}
    (generated : generate sourceSet tree input output = (after, .ok answer)) :
    ∃ bundle,
      validate sourceSet tree input output = .ok bundle ∧
      answer.path = bundle.artifact ∧
      Gains bundle.artifact (artifactBytes bundle) tree after := by
  cases validated : validate sourceSet tree input output with
  | error failure =>
      rw [generate_of_invalid validated] at generated
      cases generated
  | ok bundle =>
      exact ⟨bundle, rfl, (publishes_of_valid validated generated).gains⟩

/-- A run that fails changes no file. -/
theorem fileAt?_of_generate_error
    {failure : Failure}
    (generated : generate sourceSet tree input output = (after, .error failure))
    (location : Location) :
    after.fileAt? location = tree.fileAt? location := by
  cases validated : validate sourceSet tree input output with
  | error other =>
      rw [generate_of_invalid validated] at generated
      cases generated
      rfl
  | ok bundle =>
      exact (publishes_of_valid validated generated).fileAt?_eq location

/-- A run answers that a file is unchanged just if the file has the bytes that it is to have. -/
theorem generate_unchanged_iff
    {path : Path} :
    (generate sourceSet tree input output).2 = .ok (.unchanged path) ↔
      ∃ bundle,
        validate sourceSet tree input output = .ok bundle ∧
        bundle.artifact = path ∧
        tree.read bundle.artifact = .ok (artifactBytes bundle) := by
  cases validated : validate sourceSet tree input output with
  | error failure =>
      simp [generate_of_invalid validated]
  | ok bundle =>
      rw [generate_of_valid validated, (publishes_publish _ _ _).unchanged_iff]
      simp

theorem isTree_generate
    (isTree : tree.IsTree) :
    (generate sourceSet tree input output).1.IsTree := by
  cases validated : validate sourceSet tree input output with
  | error failure =>
      rwa [generate_of_invalid validated]
  | ok bundle =>
      rw [generate_of_valid validated]
      exact (publishes_publish _ _ _).isTree isTree

theorem workingDirectory_generate :
    (generate sourceSet tree input output).1.workingDirectory = tree.workingDirectory := by
  cases validated : validate sourceSet tree input output with
  | error failure =>
      rw [generate_of_invalid validated]
  | ok bundle =>
      rw [generate_of_valid validated]
      exact (publishes_publish _ _ _).workingDirectory

/-! ## Repeated runs -/

/-- The file of a valid bundle is that of a checked target. -/
theorem artifact_of_validate
    (validated : validate sourceSet tree input output = .ok bundle) :
    Validation.IsTarget bundle.target ∧
      bundle.artifact = Validation.artifactPath output bundle.target := by
  obtain ⟨_, _, _, _, _, found⟩ := Validation.validate_eq_ok_iff.mp (validate_eq_ok_iff.mp validated)
  have parts := Validation.parts_of_bundleOf? found
  exact ⟨Validation.isTarget_of_checkTarget parts.1, parts.2.2.2.2.2⟩

/-- A source set stays valid in a tree with the same resources and with a file where the code
goes. -/
theorem validate_of_alike
    {bytes : List UInt8}
    (validated : validate sourceSet tree input output = .ok bundle)
    (alike :
      ∀ locale ∈ sourceSet.locales, ∀ content,
        after.read (ResourceSet.filePath sourceSet input locale) = .ok content ↔
          tree.read (ResourceSet.filePath sourceSet input locale) = .ok content)
    (holds : after.read bundle.artifact = .ok bytes) :
    validate sourceSet after input output = .ok bundle := by
  obtain ⟨isTarget, artifact⟩ := artifact_of_validate validated
  obtain ⟨root, resources, single, loaded, silent, found⟩ :=
    Validation.validate_eq_ok_iff.mp (validate_eq_ok_iff.mp validated)
  have checked := (Validation.parts_of_bundleOf? found).1
  refine validate_eq_ok_iff.mpr (Validation.validate_eq_ok_iff.mpr
    ⟨root, resources, single, (ResourceSet.load_congr alike).trans loaded, ?_, found⟩)
  rw [artifact] at holds
  rw [Validation.diagnostics, List.append_eq_nil_iff] at silent ⊢
  refine ⟨silent.1, ?_⟩
  rw [Validation.targetDiagnostics, checked]
  exact Validation.outputDiagnostics_eq_nil isTarget holds

/-- A run that follows a successful one on the same source set changes nothing, if no resource
path leads upwards or to something below the output directory. -/
theorem generate_again
    (isTree : tree.IsTree)
    (noParent :
      ∀ locale ∈ sourceSet.locales,
        ".." ∉ (ResourceSet.filePath sourceSet input locale).segments)
    (outside :
      ∀ locale ∈ sourceSet.locales,
        ¬IsBelow (output.place tree.workingDirectory)
          ((ResourceSet.filePath sourceSet input locale).place tree.workingDirectory))
    {answer : Generated}
    (generated : generate sourceSet tree input output = (after, .ok answer)) :
    ∃ bundle,
      validate sourceSet tree input output = .ok bundle ∧
      validate sourceSet after input output = .ok bundle ∧
      after.read answer.path = .ok (artifactBytes bundle) ∧
      generate sourceSet after input output = (after, .ok (.unchanged answer.path)) := by
  obtain ⟨bundle, validated, path, gains⟩ := gains_of_generate generated
  obtain ⟨isTarget, artifact⟩ := artifact_of_validate validated
  have holds : after.read bundle.artifact = .ok (artifactBytes bundle) :=
    read_eq_ok.mpr ⟨_, gains.located, gains.holds⟩
  have alike :
      ∀ locale ∈ sourceSet.locales, ∀ content,
        after.read (ResourceSet.filePath sourceSet input locale) = .ok content ↔
          tree.read (ResourceSet.filePath sourceSet input locale) = .ok content := by
    intro locale isMember content
    refine gains.read_iff isTree (noParent locale isMember) fun same => ?_
    refine outside locale isMember ?_
    rw [same, artifact]
    exact isTarget.isBelow_artifactPath _ output
  have again := validate_of_alike validated alike holds
  refine ⟨bundle, validated, again, path ▸ holds, ?_⟩
  rw [generate_of_valid again, publish, if_pos (holds_iff.mpr holds), path]

end Phrasebook.Publication
