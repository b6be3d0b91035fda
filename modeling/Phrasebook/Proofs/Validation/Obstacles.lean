import Mathlib
import Phrasebook.Proofs.FileTree.Descent
import Phrasebook.Proofs.Validation.Output

namespace Phrasebook.Validation

open FileTree

/-!
# What the checks of the output find

The checks look at what stands in the way of the generated file below the output directory: in place
of the file, and in place of each of its modules. Above the output directory they look at nothing.
-/

/-! ## Paths of generated files -/

variable
  {tree : FileTree}
  {output : Path}
  {target : TargetName}

theorem IsTarget.endsWithName_artifactPath
    (isTarget : IsTarget target)
    (output : Path) :
    EndsWithName (artifactPath output target) :=
  endsWithName_of_lead (trail_ne_nil target) (segments_artifactPath isTarget.isLegal output)
    (isName_of_mem_trail isTarget.isLegal)

theorem IsTarget.isGrounded_artifactPath
    (isTarget : IsTarget target)
    (grounded : tree.IsGrounded output) :
    tree.IsGrounded (artifactPath output target) :=
  isGrounded_of_lead grounded (isAbsolute_artifactPath isTarget.isLegal output)
    (segments_artifactPath isTarget.isLegal output) (isName_of_mem_trail isTarget.isLegal)

/-- The directory of a generated file lies below the output directory as its modules say. -/
theorem IsTarget.dropLast_place_artifactPath
    (isTarget : IsTarget target)
    (workingDirectory : Location)
    (output : Path) :
    ((artifactPath output target).place workingDirectory).dropLast =
      output.place workingDirectory ++ target.modules := by
  rw [isTarget.place_artifactPath, trail, ← List.append_assoc, List.dropLast_concat]

/-! ## Obstacles -/

/-- Only a path with a name at its end leads to a file. -/
theorem endsWithName_of_isObstacle
    {path : Path}
    (isTree : tree.IsTree)
    (obstacle : isObstacle tree path) :
    EndsWithName path := by
  obtain ⟨before, last, shape⟩ : ∃ before last, path.segments = before ++ [last] :=
    ⟨_, _, (List.dropLast_append_getLast (Path.segments_ne_nil path)).symm⟩
  by_contra noName
  refine absurd obstacle (Bool.eq_false_iff.mp (isObstacle_eq_false fun location located => ?_))
  have followed := (locate_eq_ok.mp located).2
  rw [shape] at followed
  obtain ⟨between, -, further⟩ := follow_append.mp followed
  obtain ⟨isDirectory, ends⟩ := follow_cons.mp further
  cases ends
  unfold step
  split
  · exact isDirectory
  · split
    · exact isTree.nested _ _ isDirectory
    · rename_i notIdle notParent
      have isMember : last ∈ path.segments := by simp [shape]
      exact absurd ⟨before, last, shape, by simpa using notIdle, by simpa using notParent,
        Path.noSlash_of_mem_segments isMember⟩ noName

/-- A path meets an obstacle just if it ends with a name and a file stands at its place. -/
theorem isObstacle_iff
    {path : Path}
    (isTree : tree.IsTree)
    (grounded : tree.IsGrounded path) :
    isObstacle tree path ↔
      EndsWithName path ∧
        ∃ bytes, tree.nodeAt? (path.place tree.workingDirectory) = some (.file bytes) := by
  by_cases ends : EndsWithName path
  · rw [isObstacle, isPresent, FileTree.isDirectory, isTree.find?_eq_nodeAt? grounded ends]
    cases tree.nodeAt? (path.place tree.workingDirectory) with
    | none =>
        simp
    | some node =>
        cases node <;> simp [ends]
  · exact iff_of_false (mt (endsWithName_of_isObstacle isTree) ends) fun both => ends both.1

theorem mem_ancestors_of_mem_moduleDirectories
    {output artifact directory : Path}
    (isMember : directory ∈ moduleDirectories output artifact) :
    directory ∈ artifact.ancestors :=
  List.takeWhile_subset _ isMember

/-- The directory of each outer part of the modules of a target is checked. -/
theorem IsTarget.exists_moduleDirectory
    (isTarget : IsTarget target)
    (output : Path)
    {names : List String}
    (notEmpty : names ≠ [])
    (isOuter : names <+: target.modules) :
    ∃ directory ∈ moduleDirectories output (artifactPath output target),
      directory.segments = output.lead ++ names ∧
      directory.isAbsolute = output.isAbsolute := by
  have areNames : ∀ name ∈ names, Path.IsName name := fun name isMember =>
    isName_of_mem_modules isTarget.isLegal name (isOuter.subset isMember)
  refine ⟨output.below names, ?_, Path.segments_below areNames output notEmpty,
    Path.isAbsolute_below areNames output⟩
  rw [moduleDirectories_eq isTarget.isLegal, List.mem_reverse]
  exact List.mem_map_of_mem (Path.mem_tail_inits_iff.mpr ⟨isOuter, notEmpty⟩)

/-- Without problems of the output no directory stands in place of the generated file, and no file
in place of its modules. -/
structure IsClear
    (tree : FileTree)
    (output : Path)
    (target : TargetName) :
    Prop where
  directory : isObstacle tree output = false
  artifact :
    tree.nodeAt? ((artifactPath output target).place tree.workingDirectory) ≠ some .directory
  modules :
    ∀ names, names ≠ [] → names <+: target.modules → ∀ bytes,
      tree.nodeAt? (output.place tree.workingDirectory ++ names) ≠ some (.file bytes)

theorem IsTarget.isClear_of_silent
    (isTarget : IsTarget target)
    (isTree : tree.IsTree)
    (grounded : tree.IsGrounded output)
    (silent : outputDiagnostics tree output (artifactPath output target) = []) :
    IsClear tree output target := by
  have absent : ∀ {present : Bool} {path : Path} {message : String},
      pathDiagnostics present path message = [] → present = false := by
    intro present path message
    cases present <;> simp [pathDiagnostics]
  rw [outputDiagnostics, List.append_eq_nil_iff, List.append_eq_nil_iff,
    List.flatMap_eq_nil_iff] at silent
  obtain ⟨⟨noObstacle, noDirectory⟩, noModule⟩ := silent
  refine ⟨absent noObstacle, fun isDirectory => ?_, fun names notEmpty isOuter bytes isFile => ?_⟩
  · have free := absent noDirectory
    rw [FileTree.isDirectory, isTree.find?_eq_nodeAt? (isTarget.isGrounded_artifactPath grounded)
      (isTarget.endsWithName_artifactPath output), isDirectory] at free
    cases free
  · obtain ⟨directory, isMember, shape, start⟩ :=
      isTarget.exists_moduleDirectory output notEmpty isOuter
    have areNames : ∀ name ∈ names, Path.IsName name := fun name inNames =>
      isName_of_mem_modules isTarget.isLegal name (isOuter.subset inNames)
    have obstacle : isObstacle tree directory = true := by
      refine (isObstacle_iff isTree (isGrounded_of_lead grounded start shape areNames)).mpr
        ⟨endsWithName_of_lead notEmpty shape areNames, bytes, ?_⟩
      rw [place_of_lead _ start shape areNames, isFile]
    exact Bool.false_ne_true ((absent (noModule directory isMember)).symm.trans obstacle)

/-- A file that stands in place of an output directory without being an obstacle is not what the
path leads to: its last segment leads nowhere. -/
theorem endsIdle_of_file
    (isTree : tree.IsTree)
    (grounded : tree.IsGrounded output)
    (noObstacle : isObstacle tree output = false)
    {bytes : List UInt8}
    (isFile : tree.nodeAt? (output.place tree.workingDirectory) = some (.file bytes)) :
    output.endsIdle := by
  obtain ⟨before, last, shape⟩ : ∃ before last, output.segments = before ++ [last] :=
    ⟨_, _, (List.dropLast_append_getLast (Path.segments_ne_nil output)).symm⟩
  rw [Path.endsIdle, shape, List.getLast?_concat, Option.any_some]
  by_contra notIdle
  have notIdle : Path.isIdle last = false := by simpa using notIdle
  by_cases isParent : last = ".."
  · -- The segment leads upwards from a directory, so to a directory.
    have back := grounded
    rw [IsGrounded, shape, leadsBack_append] at back
    have parent := isTree.nested _ _ (back.2.1 isParent)
    have place : output.place tree.workingDirectory =
        (before.foldl step (tree.start output)).dropLast := by
      rw [Path.place, shape, List.foldl_append, isParent]
      rfl
    rw [place, parent] at isFile
    cases isFile
  · have isMember : last ∈ output.segments := by simp [shape]
    have isName : Path.IsName last :=
      ⟨notIdle, isParent, Path.noSlash_of_mem_segments isMember⟩
    have obstacle :=
      (isObstacle_iff isTree grounded).mpr ⟨⟨before, last, shape, isName⟩, _, isFile⟩
    exact Bool.false_ne_true (noObstacle.symm.trans obstacle)

end Phrasebook.Validation
