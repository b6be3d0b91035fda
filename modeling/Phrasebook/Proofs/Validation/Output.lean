import Mathlib
import Phrasebook.Proofs.FileTree
import Phrasebook.Proofs.Validation.ModuleDirectories
import Phrasebook.Proofs.Validation.Target

namespace Phrasebook.Validation

open FileTree

/-!
# Where generated files go

The file of a target lies below the output directory, at a place that tells its path. Once the
file is there, no check finds a problem with the place.
-/

/-! ## Places of generated files -/

theorem IsTarget.place_artifactPath
    {target : TargetName}
    (isTarget : IsTarget target)
    (workingDirectory : Location)
    (output : Path) :
    (artifactPath output target).place workingDirectory =
      output.place workingDirectory ++ trail target := by
  rw [artifactPath, place_join workingDirectory output (isAbsolute_relativePath isTarget.isLegal),
    segments_relativePath isTarget.isLegal,
    foldl_step_of_isName _ (isName_of_mem_trail isTarget.isLegal)]

theorem IsTarget.isBelow_artifactPath
    {target : TargetName}
    (isTarget : IsTarget target)
    (workingDirectory : Location)
    (output : Path) :
    IsBelow (output.place workingDirectory)
      ((artifactPath output target).place workingDirectory) :=
  ⟨trail target, trail_ne_nil target, isTarget.place_artifactPath workingDirectory output⟩

/-- Generated files at one place below an output directory have one path. -/
theorem artifactPath_eq_of_place
    {first second : TargetName}
    (firstTarget : IsTarget first)
    (secondTarget : IsTarget second)
    {workingDirectory : Location}
    {output : Path}
    (same :
      (artifactPath output first).place workingDirectory =
        (artifactPath output second).place workingDirectory) :
    artifactPath output first = artifactPath output second := by
  rw [firstTarget.place_artifactPath, secondTarget.place_artifactPath, List.append_cancel_left_eq,
    ← segments_relativePath firstTarget.isLegal,
    ← segments_relativePath secondTarget.isLegal] at same
  rw [artifactPath, artifactPath, Path.eq_of_segments same]

/-! ## Problems of places -/

theorem isObstacle_eq_false
    {tree : FileTree}
    {path : Path}
    (isDirectory :
      ∀ location, tree.locate path = .ok location → tree.nodeAt? location = some .directory) :
    isObstacle tree path = false := by
  rw [isObstacle, isPresent, FileTree.isDirectory, find?]
  cases located : tree.locate path with
  | error fault =>
      rfl
  | ok location =>
      simp [isDirectory location located]

/-- A path leads on only from directories. -/
theorem isDirectory_on_the_way
    {tree : FileTree}
    {path : Path}
    {location : Location}
    {lead further : List String}
    (located : tree.locate path = .ok location)
    (shape : path.segments = lead ++ further)
    (notEmpty : further ≠ []) :
    tree.nodeAt? (lead.foldl step (tree.start path)) = some .directory := by
  have followed := (locate_eq_ok.mp located).2
  rw [shape] at followed
  obtain ⟨between, first, second⟩ := follow_append.mp followed
  obtain ⟨segment, segments, rfl⟩ := List.exists_cons_of_ne_nil notEmpty
  rw [← follow_eq_ok first]
  exact (follow_cons.mp second).1

theorem isObstacle_ancestor
    {tree : FileTree}
    {path ancestor : Path}
    {location : Location}
    (located : tree.locate path = .ok location)
    (isMember : ancestor ∈ path.ancestors) :
    isObstacle tree ancestor = false := by
  refine isObstacle_eq_false fun found foundAt => ?_
  obtain ⟨notEmpty, followed⟩ := locate_eq_ok.mp foundAt
  rcases Path.of_mem_ancestors isMember with rfl | rfl | ⟨further, more, shape, sameStart⟩
  · exact absurd rfl notEmpty
  · have isRoot : found = [] := follow_eq_ok followed
    rw [isRoot, nodeAt?_nil]
  · have start : tree.start ancestor = tree.start path := by
      rw [FileTree.start, FileTree.start, sameStart]
    rw [follow_eq_ok followed, start]
    exact isDirectory_on_the_way located shape more

theorem IsTarget.isObstacle_output
    {target : TargetName}
    (isTarget : IsTarget target)
    {tree : FileTree}
    {output : Path}
    {location : Location}
    (located : tree.locate (artifactPath output target) = .ok location) :
    isObstacle tree output = false := by
  refine isObstacle_eq_false fun found foundAt => ?_
  obtain ⟨notEmpty, followed⟩ := locate_eq_ok.mp foundAt
  have start : tree.start output = tree.start (artifactPath output target) := by
    rw [FileTree.start, FileTree.start, isAbsolute_artifactPath isTarget.isLegal]
  have place : found = output.lead.foldl step (tree.start (artifactPath output target)) := by
    rw [follow_eq_ok followed, start, foldl_step_lead]
  rw [place]
  exact isDirectory_on_the_way located (segments_artifactPath isTarget.isLegal output)
    (trail_ne_nil target)

/-- No check finds a problem with the place of a file that is there already. -/
theorem outputDiagnostics_eq_nil
    {target : TargetName}
    (isTarget : IsTarget target)
    {tree : FileTree}
    {output : Path}
    {bytes : List UInt8}
    (holds : tree.read (artifactPath output target) = .ok bytes) :
    outputDiagnostics tree output (artifactPath output target) = [] := by
  obtain ⟨location, located, isFile⟩ := read_eq_ok.mp holds
  have noDirectory : tree.isDirectory (artifactPath output target) = false := by
    simp [FileTree.isDirectory, find?, located, isFile]
  have modules :
      ∀ directory ∈ moduleDirectories output (artifactPath output target),
        isObstacle tree directory = false := fun directory isMember =>
    isObstacle_ancestor located (List.takeWhile_subset _ isMember)
  rw [outputDiagnostics, isTarget.isObstacle_output located, noDirectory, List.append_eq_nil_iff,
    List.flatMap_eq_nil_iff]
  refine ⟨rfl, fun directory isMember => ?_⟩
  rw [modules directory isMember]
  rfl

end Phrasebook.Validation
