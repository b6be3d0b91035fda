import Mathlib
import Phrasebook.Proofs.FileTree

namespace Phrasebook.FileTree

/-!
# Trees that change

What becomes of a tree when directories are created or a file is written: directories stand where
there was nothing, one file gains its bytes, and every other file can be read as before.
-/

/-! ## Creating directories -/

/-- Whether a location is as before, or has a directory where there was nothing. -/
def Persists
    (before after : FileTree)
    (location : Location) :
    Prop :=
  after.nodeAt? location = before.nodeAt? location ∨
    before.nodeAt? location = none ∧ after.nodeAt? location = some .directory

namespace Persists

variable
  {before after : FileTree}
  {location : Location}

theorem isDirectory
    (persists : Persists before after location)
    (isDirectory : before.nodeAt? location = some .directory) :
    after.nodeAt? location = some .directory := by
  rcases persists with same | ⟨-, added⟩
  · rw [same, isDirectory]
  · exact added

theorem isFile_iff
    (persists : Persists before after location)
    {bytes : List UInt8} :
    after.nodeAt? location = some (.file bytes) ↔
      before.nodeAt? location = some (.file bytes) := by
  rcases persists with same | ⟨absent, added⟩
  · rw [same]
  · simp [absent, added]

theorem fileAt?_eq
    (persists : Persists before after location) :
    after.fileAt? location = before.fileAt? location := by
  refine Option.ext fun bytes => ?_
  rw [fileAt?_eq_some, fileAt?_eq_some, persists.isFile_iff]

end Persists

/-- Whether a tree is another one with directories where there was nothing. -/
structure AddsDirectories
    (before after : FileTree) :
    Prop where
  workingDirectory : after.workingDirectory = before.workingDirectory
  nodes : ∀ location, Persists before after location

namespace AddsDirectories

theorem refl
    (tree : FileTree) :
    AddsDirectories tree tree :=
  ⟨rfl, fun _ => .inl rfl⟩

theorem trans
    {first second third : FileTree}
    (before : AddsDirectories first second)
    (after : AddsDirectories second third) :
    AddsDirectories first third := by
  refine ⟨after.workingDirectory.trans before.workingDirectory, fun location => ?_⟩
  rcases after.nodes location with same | ⟨absent, added⟩
  · rw [Persists, same]
    exact before.nodes location
  · rcases before.nodes location with same | ⟨-, isDirectory⟩
    · exact .inr ⟨same ▸ absent, added⟩
    · rw [isDirectory] at absent
      cases absent

end AddsDirectories

/-- The tree that is left after directories were asked for. -/
def remaining :
    Except Interruption FileTree →
    FileTree
  | .ok tree => tree
  | .error interruption => interruption.tree

theorem addsDirectories_put
    {tree : FileTree}
    {location : Location}
    (absent : tree.nodeAt? location = none) :
    AddsDirectories tree (tree.put location .directory) := by
  have free : tree.nodeAt? location ≠ some .directory := by simp [absent]
  refine ⟨rfl, fun other => ?_⟩
  rw [Persists, nodeAt?_put (ne_nil_of_free free)]
  split
  · rename_i same
    exact .inr ⟨same ▸ absent, rfl⟩
  · exact .inl rfl

/-- Following segments while creating directories adds directories and nothing else. -/
theorem addsDirectories_createAlong
    (tree : FileTree)
    (created : Bool)
    (location : Location)
    (segments : List String) :
    AddsDirectories tree (remaining (tree.createAlong created location segments)) := by
  induction segments generalizing tree created location with
  | nil =>
      exact .refl tree
  | cons segment segments inductionHypothesis =>
      rw [createAlong]
      split
      · exact inductionHypothesis tree created _
      · split <;> exact .refl tree
      · rename_i absent
        exact (addsDirectories_put absent).trans (inductionHypothesis _ true _)

/-- Creating directories from a directory on keeps a tree well formed. -/
theorem IsTree.createAlong
    {tree : FileTree}
    (isTree : tree.IsTree)
    (created : Bool)
    {location : Location}
    (isDirectory : tree.nodeAt? location = some .directory)
    (segments : List String) :
    (remaining (tree.createAlong created location segments)).IsTree := by
  induction segments generalizing tree created location with
  | nil =>
      exact isTree
  | cons segment segments inductionHypothesis =>
      rw [FileTree.createAlong]
      split
      · rename_i next
        exact inductionHypothesis isTree created next
      · split <;> exact isTree
      · rename_i absent
        -- The directory itself and the one above it exist, so the segment leads downwards.
        have shape : step location segment = location ++ [segment] := by
          unfold step at absent ⊢
          by_cases idle : Path.isIdle segment
          · rw [if_pos idle, isDirectory] at absent
            cases absent
          · by_cases isParent : segment == ".."
            · rw [if_neg idle, if_pos isParent, isTree.nested _ _ isDirectory] at absent
              cases absent
            · rw [if_neg idle, if_neg isParent]
        have free : tree.nodeAt? (step location segment) ≠ some .directory := by simp [absent]
        have parent : tree.nodeAt? (step location segment).dropLast = some .directory := by
          rwa [shape, List.dropLast_concat]
        refine inductionHypothesis (isTree.put parent free) true ?_
        rw [nodeAt?_put (ne_nil_of_free free), if_pos rfl]

theorem addsDirectories_createDirectories
    (tree : FileTree)
    (path : Path) :
    AddsDirectories tree (remaining (tree.createDirectories path)) := by
  rw [createDirectories]
  split
  · exact .refl tree
  · exact addsDirectories_createAlong tree false _ _

theorem IsTree.createDirectories
    {tree : FileTree}
    (isTree : tree.IsTree)
    (path : Path) :
    (remaining (tree.createDirectories path)).IsTree := by
  rw [FileTree.createDirectories]
  split
  · exact isTree
  · exact isTree.createAlong false (isDirectory_start isTree path) _

/-! ## Writing files -/

theorem write_eq_ok
    {tree after : FileTree}
    {path : Path}
    {bytes : List UInt8} :
    tree.write path bytes = .ok after ↔
      ∃ location, tree.locate path = .ok location ∧
        tree.nodeAt? location ≠ some .directory ∧
        after = tree.put location (.file bytes) := by
  rw [write]
  cases tree.locate path with
  | error fault =>
      simp
  | ok location =>
      simp only [Except.ok.injEq, exists_eq_left']
      split
      · rename_i isDirectory
        simp [isDirectory]
      · rename_i noDirectory
        have noDirectory : tree.nodeAt? location ≠ some .directory := noDirectory
        simp [noDirectory, eq_comm]

theorem IsTree.write
    {tree after : FileTree}
    (isTree : tree.IsTree)
    {path : Path}
    {bytes : List UInt8}
    (written : tree.write path bytes = .ok after) :
    after.IsTree := by
  obtain ⟨location, located, free, rfl⟩ := write_eq_ok.mp written
  have parent := isTree.parent_of_follow (isDirectory_start isTree path) (locate_eq_ok.mp located).2
  exact isTree.put parent free

/-- Whether a tree is another one with directories where there was nothing, and with some bytes
in the file that a path leads to. -/
structure Gains
    (path : Path)
    (bytes : List UInt8)
    (before after : FileTree) :
    Prop where
  workingDirectory : after.workingDirectory = before.workingDirectory
  located : after.locate path = .ok (path.place before.workingDirectory)
  holds : after.nodeAt? (path.place before.workingDirectory) = some (.file bytes)
  free : before.nodeAt? (path.place before.workingDirectory) ≠ some .directory
  nodes :
    ∀ location, location ≠ path.place before.workingDirectory → Persists before after location

namespace Gains

variable
  {path : Path}
  {bytes : List UInt8}
  {before after : FileTree}

theorem of_read
    {tree : FileTree}
    (read : tree.read path = .ok bytes) :
    Gains path bytes tree tree := by
  obtain ⟨location, located, holds⟩ := read_eq_ok.mp read
  have same := eq_place_of_locate located
  subst same
  exact ⟨rfl, located, holds, by simp [holds], fun _ _ => .inl rfl⟩

/-- A file that is written after directories were added. -/
theorem of_write
    {created : FileTree}
    (adds : AddsDirectories before created)
    (written : created.write path bytes = .ok after) :
    Gains path bytes before after := by
  obtain ⟨location, located, free, rfl⟩ := write_eq_ok.mp written
  have same := eq_place_of_locate located
  rw [adds.workingDirectory] at same
  subst same
  have notRoot := ne_nil_of_free free
  refine ⟨adds.workingDirectory,
    locate_of_directories (fun _ => isDirectory_put free _) rfl located, ?_, ?_, ?_⟩
  · rw [nodeAt?_put notRoot, if_pos rfl]
  · exact fun isDirectory => free ((adds.nodes _).isDirectory isDirectory)
  · intro location apart
    rw [Persists, nodeAt?_put notRoot, if_neg apart]
    exact adds.nodes location

theorem fileAt?_eq
    (gains : Gains path bytes before after)
    (location : Location) :
    after.fileAt? location =
      if location = path.place before.workingDirectory then some bytes
      else before.fileAt? location := by
  split
  · rename_i same
    rw [same]
    exact fileAt?_eq_some.mpr gains.holds
  · rename_i apart
    exact (gains.nodes location apart).fileAt?_eq

theorem isDirectory
    (gains : Gains path bytes before after)
    {location : Location}
    (isDirectory : before.nodeAt? location = some .directory) :
    after.nodeAt? location = some .directory := by
  have apart : location ≠ path.place before.workingDirectory := by
    rintro rfl
    exact gains.free isDirectory
  exact (gains.nodes location apart).isDirectory isDirectory

/-- Files other than the one that gains its bytes are read as before, if nothing on the way to them
leads upwards. -/
theorem read_iff
    {other : Path}
    {content : List UInt8}
    (gains : Gains path bytes before after)
    (isTree : before.IsTree)
    (noParent : ".." ∉ other.segments)
    (apart : other.place before.workingDirectory ≠ path.place before.workingDirectory) :
    after.read other = .ok content ↔ before.read other = .ok content := by
  rw [read_eq_ok, read_eq_ok]
  constructor
  · rintro ⟨location, located, stands⟩
    have place := eq_place_of_locate located
    rw [gains.workingDirectory] at place
    rw [← place] at apart
    have stood := (gains.nodes location apart).isFile_iff.mp stands
    obtain ⟨notEmpty, followed⟩ := locate_eq_ok.mp located
    have start : after.start other = before.start other := by
      rw [FileTree.start, FileTree.start, gains.workingDirectory]
    rw [start] at followed
    exact ⟨location,
      locate_eq_ok.mpr ⟨notEmpty, follow_of_file isTree noParent stands stood followed⟩, stood⟩
  · rintro ⟨location, located, stood⟩
    have place := eq_place_of_locate located
    rw [← place] at apart
    exact ⟨location,
      locate_of_directories (fun _ => gains.isDirectory) gains.workingDirectory located,
      (gains.nodes location apart).isFile_iff.mpr stood⟩

end Gains

end Phrasebook.FileTree
