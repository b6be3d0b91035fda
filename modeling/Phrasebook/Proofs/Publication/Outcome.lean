import Mathlib
import Phrasebook.Proofs.FileTree.Descent
import Phrasebook.Proofs.Publication
import Phrasebook.Proofs.Validation.Obstacles

namespace Phrasebook.Publication

open FileTree

/-!
# Outcomes of runs

What publishing a file answers is decided by what stands at its place and on the way there. A source
set that is valid can be published unless a file stands above the output directory, or in its place
under a path that does not lead to it.
-/

/-! ## Directories of files -/

theorem createDirectories_eq_createAlong
    {tree : FileTree}
    (isTree : tree.IsTree)
    (path : Path) :
    tree.createDirectories path = tree.createAlong false (tree.start path) path.segments := by
  rw [createDirectories]
  split
  · rename_i isEmpty
    have isEmpty : path.text = "" := by simpa using isEmpty
    have alone : path.segments = [""] := by
      simp [Path.segments, isEmpty, List.splitOnP_nil]
    rw [alone, createAlong, step_of_isIdle _ rfl, isDirectory_start isTree]
    rfl
  · rfl

section Publish

variable
  {tree : FileTree}
  {path : Path}
  {bytes : List UInt8}

/-- The directory of a file leads to the location above the place of the file. -/
theorem exists_directory
    (grounded : tree.IsGrounded path)
    (ends : EndsWithName path) :
    ∃ directory,
      path.parent? = some directory ∧
      LeadsBack tree (tree.start directory) directory.segments ∧
      directory.segments.foldl step (tree.start directory) =
        (path.place tree.workingDirectory).dropLast := by
  obtain ⟨before, name, shape, isName⟩ := ends
  obtain ⟨directory, parent, start, moves⟩ := Path.exists_parent shape isName.noIdle
  have start : tree.start directory = tree.start path := by
    rw [FileTree.start, FileTree.start, start]
  rw [IsGrounded, shape, leadsBack_append] at grounded
  refine ⟨directory, parent, ?_, ?_⟩
  · rw [start, ← leadsBack_moves, moves, leadsBack_moves]
    exact grounded.1
  · rw [place_eq_append _ shape isName, List.dropLast_concat, start, ← foldl_step_moves, moves,
      foldl_step_moves]
    rfl

theorem createParent_of_file
    (isTree : tree.IsTree)
    (grounded : tree.IsGrounded path)
    (ends : EndsWithName path)
    {blocker : Location}
    {content : List UInt8}
    (isFile : tree.nodeAt? blocker = some (.file content))
    (onTheWay : blocker <+: (path.place tree.workingDirectory).dropLast) :
    ∃ directory,
      path.parent? = some directory ∧
      createParent tree path =
        (tree, .error (.unwritable directory
          (faultAt blocker (tree.start directory) directory.segments).message)) := by
  obtain ⟨directory, parent, back, place⟩ := exists_directory grounded ends
  rw [← place] at onTheWay
  refine ⟨directory, parent, ?_⟩
  simp only [createParent, parent]
  rw [createDirectories_eq_createAlong isTree,
    isTree.createAlong_of_file (isDirectory_start isTree directory) back isFile onTheWay]

theorem createParent_of_noFile
    (isTree : tree.IsTree)
    (grounded : tree.IsGrounded path)
    (ends : EndsWithName path)
    (noFile :
      ∀ blocker content, tree.nodeAt? blocker = some (.file content) →
        ¬ blocker <+: (path.place tree.workingDirectory).dropLast) :
    ∃ created,
      createParent tree path = (created, .ok ()) ∧
      created.workingDirectory = tree.workingDirectory ∧
      ∀ other,
        created.nodeAt? other =
          if other <+: (path.place tree.workingDirectory).dropLast then some .directory
          else tree.nodeAt? other := by
  obtain ⟨directory, parent, back, place⟩ := exists_directory grounded ends
  rw [← place] at noFile ⊢
  obtain ⟨created, succeeded, workingDirectory, nodes⟩ :=
    isTree.createAlong_of_noFile false (isDirectory_start isTree directory) back noFile
  refine ⟨created, ?_, workingDirectory, nodes⟩
  simp only [createParent, parent]
  rw [createDirectories_eq_createAlong isTree, succeeded]

/-! ## Publishing -/

theorem holds_of_file
    (isTree : tree.IsTree)
    (grounded : tree.IsGrounded path)
    (ends : EndsWithName path) :
    holds tree path bytes ↔
      tree.nodeAt? (path.place tree.workingDirectory) = some (.file bytes) := by
  rw [holds, isTree.find?_eq_nodeAt? grounded ends]
  split
  · rename_i existing same
    simp [same]
  · rename_i noFile
    simpa using noFile bytes

/-- A file that has its bytes is left as it is. -/
theorem publish_of_holds
    (isTree : tree.IsTree)
    (grounded : tree.IsGrounded path)
    (ends : EndsWithName path)
    (stands : tree.nodeAt? (path.place tree.workingDirectory) = some (.file bytes)) :
    publish tree path bytes = (tree, .ok (.unchanged path)) := by
  rw [publish, if_pos ((holds_of_file isTree grounded ends).mpr stands)]

/-- A file on the way keeps everything as it is. -/
theorem publish_of_file
    (isTree : tree.IsTree)
    (grounded : tree.IsGrounded path)
    (ends : EndsWithName path)
    {blocker : Location}
    {content : List UInt8}
    (isFile : tree.nodeAt? blocker = some (.file content))
    (onTheWay : blocker <+: (path.place tree.workingDirectory).dropLast)
    (bytes : List UInt8) :
    ∃ directory,
      path.parent? = some directory ∧
      publish tree path bytes =
        (tree, .error (.unwritable directory
          (faultAt blocker (tree.start directory) directory.segments).message)) := by
  have absent : tree.nodeAt? (path.place tree.workingDirectory) ≠ some (.file bytes) := by
    intro stands
    obtain ⟨before, name, shape, isName⟩ := ends
    rw [place_eq_append _ shape isName] at stands onTheWay
    rw [List.dropLast_concat] at onTheWay
    have same := isTree.eq_of_file isFile stands (onTheWay.trans (List.prefix_append _ _))
    exact absurd (same ▸ onTheWay).length_le (by simp)
  obtain ⟨directory, parent, failed⟩ := createParent_of_file isTree grounded ends isFile onTheWay
  refine ⟨directory, parent, ?_⟩
  rw [publish, if_neg (mt (holds_of_file isTree grounded ends).mp absent), failed]

/-- Without a file on the way the directories are created and the file gains its bytes. -/
theorem publish_of_noFile
    (isTree : tree.IsTree)
    (grounded : tree.IsGrounded path)
    (ends : EndsWithName path)
    (free : tree.nodeAt? (path.place tree.workingDirectory) ≠ some .directory)
    (differs : tree.nodeAt? (path.place tree.workingDirectory) ≠ some (.file bytes))
    (noFile :
      ∀ blocker content, tree.nodeAt? blocker = some (.file content) →
        ¬ blocker <+: (path.place tree.workingDirectory).dropLast) :
    ∃ after,
      publish tree path bytes = (after, .ok (.written path)) ∧
      after.workingDirectory = tree.workingDirectory ∧
      ∀ other,
        after.nodeAt? other =
          if other = path.place tree.workingDirectory then some (.file bytes)
          else if other <+: (path.place tree.workingDirectory).dropLast then some .directory
          else tree.nodeAt? other := by
  obtain ⟨created, succeeded, workingDirectory, nodes⟩ :=
    createParent_of_noFile isTree grounded ends noFile
  have createdTree : created.IsTree := by
    have remains := isTree_createParent isTree path
    rwa [succeeded] at remains
  have adds : AddsDirectories tree created := by
    have adds := addsDirectories_createParent tree path
    rwa [succeeded] at adds
  have createdGrounded : created.IsGrounded path := by
    have start : created.start path = tree.start path := by
      rw [FileTree.start, FileTree.start, workingDirectory]
    rw [IsGrounded, start]
    exact LeadsBack.of_directories (fun location => (adds.nodes location).isDirectory) grounded
  have parent :
      created.nodeAt? (path.place tree.workingDirectory).dropLast = some .directory := by
    rw [nodes, if_pos List.prefix_rfl]
  have located : created.locate path = .ok (path.place tree.workingDirectory) := by
    rw [← workingDirectory] at parent ⊢
    exact createdTree.locate_eq_place createdGrounded ends parent
  have createdFree :
      created.nodeAt? (path.place tree.workingDirectory) ≠ some .directory := by
    rw [nodes, if_neg]
    · exact free
    · obtain ⟨before, name, shape, isName⟩ := ends
      rw [place_eq_append _ shape isName, List.dropLast_concat]
      exact fun isAbove => absurd isAbove.length_le (by simp)
  have written :
      created.write path bytes =
        .ok (created.put (path.place tree.workingDirectory) (.file bytes)) :=
    write_eq_ok.mpr ⟨_, located, createdFree, rfl⟩
  refine ⟨created.put (path.place tree.workingDirectory) (.file bytes), ?_, workingDirectory,
    fun other => ?_⟩
  · rw [publish, if_neg (mt (holds_of_file isTree grounded ends).mp differs), succeeded]
    simp only [written]
  · rw [nodeAt?_put (ne_nil_of_free createdFree), nodes]

/-- How publishing a file at a place where no directory stands can end. -/
inductive Outcome
    (tree : FileTree)
    (path : Path)
    (bytes : List UInt8) :
    FileTree × Except Failure Generated →
    Prop where
  | unchanged
      (stands : tree.nodeAt? (path.place tree.workingDirectory) = some (.file bytes)) :
      Outcome tree path bytes (tree, .ok (.unchanged path))
  | blocked
      {blocker : Location}
      {content : List UInt8}
      {directory : Path}
      (isFile : tree.nodeAt? blocker = some (.file content))
      (onTheWay : blocker <+: (path.place tree.workingDirectory).dropLast)
      (parent : path.parent? = some directory) :
      Outcome tree path bytes
        (tree, .error (.unwritable directory
          (faultAt blocker (tree.start directory) directory.segments).message))
  | written
      {after : FileTree}
      (differs : tree.nodeAt? (path.place tree.workingDirectory) ≠ some (.file bytes))
      (noFile :
        ∀ blocker content, tree.nodeAt? blocker = some (.file content) →
          ¬ blocker <+: (path.place tree.workingDirectory).dropLast)
      (workingDirectory : after.workingDirectory = tree.workingDirectory)
      (nodes :
        ∀ other,
          after.nodeAt? other =
            if other = path.place tree.workingDirectory then some (.file bytes)
            else if other <+: (path.place tree.workingDirectory).dropLast then some .directory
            else tree.nodeAt? other) :
      Outcome tree path bytes (after, .ok (.written path))

theorem outcome_publish
    (isTree : tree.IsTree)
    (grounded : tree.IsGrounded path)
    (ends : EndsWithName path)
    (free : tree.nodeAt? (path.place tree.workingDirectory) ≠ some .directory)
    (bytes : List UInt8) :
    Outcome tree path bytes (publish tree path bytes) := by
  by_cases stands : tree.nodeAt? (path.place tree.workingDirectory) = some (.file bytes)
  · rw [publish_of_holds isTree grounded ends stands]
    exact .unchanged stands
  by_cases blocked : ∃ blocker content, tree.nodeAt? blocker = some (.file content) ∧
      blocker <+: (path.place tree.workingDirectory).dropLast
  · obtain ⟨blocker, content, isFile, onTheWay⟩ := blocked
    obtain ⟨directory, parent, failed⟩ := publish_of_file isTree grounded ends isFile onTheWay bytes
    rw [failed]
    exact .blocked isFile onTheWay parent
  · have noFile : ∀ blocker content, tree.nodeAt? blocker = some (.file content) →
        ¬ blocker <+: (path.place tree.workingDirectory).dropLast :=
      fun blocker content isFile onTheWay => blocked ⟨blocker, content, isFile, onTheWay⟩
    obtain ⟨after, written, workingDirectory, nodes⟩ :=
      publish_of_noFile isTree grounded ends free stands noFile
    rw [written]
    exact .written stands noFile workingDirectory nodes

end Publish

/-! ## A source set without messages -/

/-- A source set with the root locale alone. -/
def plainSourceSet :
    SourceSet where
  targetName := "i18n::Messages"
  locales := [⟨"", 1, "0"⟩]

/-- If its root file is empty, its only problems can be those of the output. -/
theorem diagnostics_plainSourceSet
    {tree : FileTree}
    {input : Path}
    (isEmpty :
      tree.read (ResourceSet.filePath plainSourceSet input ⟨"", 1, "0"⟩) = .ok [])
    (output : Path) :
    ∃ resources,
      ResourceSet.load plainSourceSet tree input = .ok resources ∧
      Validation.diagnostics plainSourceSet tree output resources
          (Catalog.build plainSourceSet resources) =
        Validation.outputDiagnostics tree output
          (Validation.artifactPath output ⟨["i18n"], "Messages"⟩) := by
  let root : ResourceFile := ⟨"", ResourceSet.filePath plainSourceSet input ⟨"", 1, "0"⟩, []⟩
  have noProperties : Properties.readBytes [] = .ok [] := by decide +kernel
  have rootLoaded : ResourceSet.loadRoot tree ⟨"", 1, "0"⟩
      (ResourceSet.filePath plainSourceSet input ⟨"", 1, "0"⟩) = .ok root := by
    simp [ResourceSet.loadRoot, isEmpty, ResourceSet.readFile, noProperties, root]
  have localeLoaded : ResourceSet.loadLocale plainSourceSet tree input ⟨"", 1, "0"⟩ =
      .ok (.loaded root, []) := by
    have isRoot : Locale.isRoot ⟨"", 1, "0"⟩ = true := by decide
    rw [ResourceSet.loadLocale, if_pos isRoot, rootLoaded]
    rfl
  have rulesSilent : plainSourceSet.locales.flatMap Validation.ruleDiagnostics = [] := by
    simp [plainSourceSet, Validation.ruleDiagnostics_zero]
  have target : Validation.checkTarget plainSourceSet.targetName =
      .ok ⟨["i18n"], "Messages"⟩ := by
    decide +kernel
  refine ⟨⟨root, [.loaded root], []⟩, ?_, ?_⟩
  · rw [ResourceSet.load]
    simp only [plainSourceSet, List.mapM_cons] at localeLoaded ⊢
    rw [localeLoaded]
    rfl
  · rw [Validation.diagnostics, rulesSilent, Validation.targetDiagnostics, target]
    rfl

theorem validate_plainSourceSet
    (tree : FileTree)
    (input output : Path)
    (isEmpty :
      tree.read (ResourceSet.filePath plainSourceSet input ⟨"", 1, "0"⟩) = .ok [])
    (silent :
      Validation.outputDiagnostics tree output
        (Validation.artifactPath output ⟨["i18n"], "Messages"⟩) = []) :
    ∃ bundle,
      validate plainSourceSet tree input output = .ok bundle ∧
      bundle.artifact = Validation.artifactPath output ⟨["i18n"], "Messages"⟩ := by
  obtain ⟨resources, loaded, whole⟩ := diagnostics_plainSourceSet isEmpty output
  obtain ⟨bundle, validated⟩ :=
    Validation.exists_bundle_of_silent rfl loaded (whole.trans silent)
  have validated := validate_eq_ok_iff.mpr validated
  obtain ⟨-, artifact⟩ := artifact_of_validate validated
  have target : Validation.checkTarget plainSourceSet.targetName =
      .ok ⟨["i18n"], "Messages"⟩ := by
    decide +kernel
  obtain ⟨_, _, _, _, _, found⟩ :=
    Validation.validate_eq_ok_iff.mp (validate_eq_ok_iff.mp validated)
  have same := (Validation.parts_of_bundleOf? found).1
  rw [target, Except.ok.injEq] at same
  exact ⟨bundle, validated, same ▸ artifact⟩

theorem validate_plainSourceSet_of_problem
    (tree : FileTree)
    (input output : Path)
    (isEmpty :
      tree.read (ResourceSet.filePath plainSourceSet input ⟨"", 1, "0"⟩) = .ok [])
    {problem : Diagnostic}
    (found :
      Validation.outputDiagnostics tree output
        (Validation.artifactPath output ⟨["i18n"], "Messages"⟩) = [problem]) :
    validate plainSourceSet tree input output = .error (.invalid [problem]) := by
  obtain ⟨resources, loaded, whole⟩ := diagnostics_plainSourceSet isEmpty output
  have single : plainSourceSet.root? = some ⟨"", 1, "0"⟩ := rfl
  simp only [validate, Validation.validate, single, loaded, whole, found]

/-! ## Runs on valid source sets -/

/-- Whether a file is in the way of an output directory without being what its path leads to: above
the directory, or in place of it if the path ends with a segment that leads nowhere. -/
def IsObstructed
    (tree : FileTree)
    (output : Path) :
    Prop :=
  ∃ location bytes,
    tree.nodeAt? location = some (.file bytes) ∧
      (IsBelow location (output.place tree.workingDirectory) ∨
        location = output.place tree.workingDirectory ∧ output.endsIdle)

section Generate

variable
  {sourceSet : SourceSet}
  {tree : FileTree}
  {input output : Path}
  {bundle : Bundle}

theorem isClear_of_validate
    (isTree : tree.IsTree)
    (grounded : tree.IsGrounded output)
    (validated : validate sourceSet tree input output = .ok bundle) :
    Validation.IsClear tree output bundle.target := by
  have isTarget := (artifact_of_validate validated).1
  obtain ⟨root, resources, single, loaded, silent, found⟩ :=
    Validation.validate_eq_ok_iff.mp (validate_eq_ok_iff.mp validated)
  have checked := (Validation.parts_of_bundleOf? found).1
  rw [Validation.diagnostics, List.append_eq_nil_iff, Validation.targetDiagnostics, checked]
    at silent
  exact isTarget.isClear_of_silent isTree grounded silent.2

/-- A file on the way to a generated file that no check finds stands no deeper than the output
directory. -/
theorem isObstructed_of_file
    (isTree : tree.IsTree)
    (grounded : tree.IsGrounded output)
    {target : TargetName}
    (clear : Validation.IsClear tree output target)
    {blocker : Location}
    {bytes : List UInt8}
    (isFile : tree.nodeAt? blocker = some (.file bytes))
    (onTheWay : blocker <+: output.place tree.workingDirectory ++ target.modules) :
    IsObstructed tree output := by
  refine ⟨blocker, bytes, isFile, ?_⟩
  by_cases here : blocker = output.place tree.workingDirectory
  · subst here
    exact .inr ⟨rfl, Validation.endsIdle_of_file isTree grounded clear.directory isFile⟩
  · refine .inl (isBelow_iff.mpr ⟨?_, Ne.symm here⟩)
    rcases List.prefix_or_prefix_of_prefix onTheWay (List.prefix_append _ _) with above | below
    · exact above
    · obtain ⟨names, rfl⟩ := below
      have isOuter := (List.prefix_append_right_inj _).mp onTheWay
      exact absurd isFile (clear.modules names (by simpa using here) isOuter bytes)

/-- A run fails if the output directory is obstructed, and changes nothing. -/
theorem generate_of_isObstructed
    (isTree : tree.IsTree)
    (grounded : tree.IsGrounded output)
    (validated : validate sourceSet tree input output = .ok bundle)
    (obstructed : IsObstructed tree output) :
    ∃ directory fault,
      bundle.artifact.parent? = some directory ∧
      generate sourceSet tree input output =
        (tree, .error (.unwritable directory (FileFault.message fault))) := by
  obtain ⟨isTarget, artifact⟩ := artifact_of_validate validated
  obtain ⟨blocker, bytes, isFile, inTheWay⟩ := obstructed
  have above : blocker <+: output.place tree.workingDirectory := by
    rcases inTheWay with below | ⟨same, -⟩
    · exact (isBelow_iff.mp below).1
    · exact same ▸ List.prefix_rfl
  have onTheWay : blocker <+: (bundle.artifact.place tree.workingDirectory).dropLast := by
    rw [artifact, isTarget.dropLast_place_artifactPath]
    exact above.trans (List.prefix_append _ _)
  obtain ⟨directory, parent, failed⟩ :=
    publish_of_file isTree (artifact ▸ isTarget.isGrounded_artifactPath grounded)
      (artifact ▸ isTarget.endsWithName_artifactPath output) isFile onTheWay
      (artifactBytes bundle)
  exact ⟨directory, _, parent, (generate_of_valid validated).trans failed⟩

/-- A run succeeds if the output directory is not obstructed. -/
theorem generate_of_not_isObstructed
    (isTree : tree.IsTree)
    (grounded : tree.IsGrounded output)
    (validated : validate sourceSet tree input output = .ok bundle)
    (unobstructed : ¬IsObstructed tree output) :
    ∃ after answer, generate sourceSet tree input output = (after, .ok answer) := by
  obtain ⟨isTarget, artifact⟩ := artifact_of_validate validated
  have clear := isClear_of_validate isTree grounded validated
  have outcome := outcome_publish isTree
    (artifact ▸ isTarget.isGrounded_artifactPath grounded)
    (artifact ▸ isTarget.endsWithName_artifactPath output) (artifact ▸ clear.artifact)
    (artifactBytes bundle)
  rw [generate_of_valid validated]
  generalize publish tree bundle.artifact (artifactBytes bundle) = result at outcome
  cases outcome with
  | unchanged stands =>
      exact ⟨_, _, rfl⟩
  | blocked isFile onTheWay parent =>
      rw [artifact, isTarget.dropLast_place_artifactPath] at onTheWay
      exact absurd (isObstructed_of_file isTree grounded clear isFile onTheWay) unobstructed
  | written differs noFile workingDirectory nodes =>
      exact ⟨_, _, rfl⟩

/-- How runs on a valid source set end. They fail just if the output directory is obstructed, for
want of the directory of the generated file, and leave everything as it was. -/
structure FailsJustIfObstructed
    (sourceSet : SourceSet)
    (tree : FileTree)
    (input output : Path)
    (bundle : Bundle) :
    Prop where
  succeeds_iff :
    (∃ after answer, generate sourceSet tree input output = (after, .ok answer)) ↔
      ¬IsObstructed tree output
  failed :
    ∀ after failure, generate sourceSet tree input output = (after, .error failure) →
      IsObstructed tree output ∧
      after = tree ∧
      ∃ directory fault,
        bundle.artifact.parent? = some directory ∧
        failure = .unwritable directory (FileFault.message fault)

/-- A run on a source set that has been validated fails just if a file stands above the output
directory, or in place of it under a path that does not lead to the file. -/
theorem failsJustIfObstructed_of_validate
    (isTree : tree.IsTree)
    (noParent : ".." ∉ output.segments)
    (validated : validate sourceSet tree input output = .ok bundle) :
    FailsJustIfObstructed sourceSet tree input output bundle := by
  have grounded : tree.IsGrounded output := leadsBack_of_noParent tree _ noParent
  by_cases obstructed : IsObstructed tree output
  · obtain ⟨directory, fault, parent, generated⟩ :=
      generate_of_isObstructed isTree grounded validated obstructed
    refine ⟨by simp [generated, obstructed], fun after failure same => ?_⟩
    rw [generated] at same
    cases same
    exact ⟨obstructed, rfl, directory, fault, parent, rfl⟩
  · obtain ⟨after, answer, generated⟩ :=
      generate_of_not_isObstructed isTree grounded validated obstructed
    refine ⟨by simp [generated, obstructed], fun after failure same => ?_⟩
    rw [generated] at same
    cases same

end Generate

/-- A file in place of the directory above the output directory. -/
theorem failsJustIfObstructed_below_file :
    let tree : FileTree := {
      nodes := [(["out"], .file []), (["messages.properties"], .file [])]
    }
    tree.IsTree ∧
      ".." ∉ Path.segments ⟨"out/code"⟩ ∧
      ∃ bundle,
        validate plainSourceSet tree ⟨"."⟩ ⟨"out/code"⟩ = .ok bundle ∧
        FailsJustIfObstructed plainSourceSet tree ⟨"."⟩ ⟨"out/code"⟩ bundle ∧
        IsObstructed tree ⟨"out/code"⟩ := by
  intro tree
  have isTree : tree.IsTree := .of_nodes rfl (by decide)
  have noParent : ".." ∉ Path.segments ⟨"out/code"⟩ := by decide
  obtain ⟨bundle, validated, -⟩ := validate_plainSourceSet tree ⟨"."⟩ ⟨"out/code"⟩
    (by decide +kernel) (by decide +kernel)
  refine ⟨isTree, noParent, bundle, validated,
    failsJustIfObstructed_of_validate isTree noParent validated, ["out"], [], rfl, .inl ?_⟩
  decide +kernel

/-- A file in place of the output directory whose path ends with a slash is taken for nothing by the
checks, and nothing else is in the way. -/
theorem file_under_trailing_slash :
    let tree : FileTree := {
      nodes := [(["out"], .file []), (["messages.properties"], .file [])]
    }
    tree.IsTree ∧
      (∃ bundle, validate plainSourceSet tree ⟨"."⟩ ⟨"out/"⟩ = .ok bundle) ∧
      generate plainSourceSet tree ⟨"."⟩ ⟨"out/"⟩ =
        (tree, .error (.unwritable ⟨"out/i18n"⟩ FileFault.notDirectory.message)) ∧
      ∀ location bytes, tree.nodeAt? location = some (.file bytes) →
        ¬IsBelow location (Path.place tree.workingDirectory ⟨"out/"⟩) := by
  intro tree
  obtain ⟨bundle, validated, artifact⟩ := validate_plainSourceSet tree ⟨"."⟩ ⟨"out/"⟩
    (by decide +kernel) (by decide +kernel)
  refine ⟨.of_nodes rfl (by decide), ⟨bundle, validated⟩, ?_, ?_⟩
  · have path : bundle.artifact = ⟨"out/i18n/messages.rs"⟩ := by
      rw [artifact]
      decide +kernel
    rw [generate_of_valid validated, path]
    rfl
  · have place : Path.place tree.workingDirectory ⟨"out/"⟩ = ["out"] := by decide +kernel
    rintro location bytes isFile ⟨further, more, whole⟩
    rw [place] at whole
    have above : location = [] := by
      cases location with
      | nil =>
          rfl
      | cons name names =>
          simp at whole
          simp [whole] at more
    rw [above] at isFile
    cases isFile

end Phrasebook.Publication
