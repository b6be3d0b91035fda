import Mathlib
import Phrasebook.FileTree
import Phrasebook.Proofs.Path.Directories

namespace Phrasebook

/-!
# Trees of files and directories

Where paths lead and which trees are well formed. Without links a path leads to the same place in
every tree in which it can be followed.
-/

/-- The location that a path leads to from a working directory, be there anything or not. -/
def Path.place
    (workingDirectory : Location)
    (path : Path) :
    Location :=
  path.segments.foldl FileTree.step (if path.isAbsolute then [] else workingDirectory)

namespace FileTree

/-- Whether a location lies in a directory or further below it. -/
def IsBelow
    (directory location : Location) :
    Prop :=
  ∃ further, further ≠ [] ∧ location = directory ++ further

theorem isBelow_iff
    {directory location : Location} :
    IsBelow directory location ↔ directory <+: location ∧ location ≠ directory := by
  constructor
  · rintro ⟨further, notEmpty, rfl⟩
    exact ⟨List.prefix_append _ _, by simpa using notEmpty⟩
  · rintro ⟨⟨further, rfl⟩, apart⟩
    exact ⟨further, by simpa using apart, rfl⟩

instance
    (directory location : Location) :
    Decidable (IsBelow directory location) :=
  decidable_of_iff _ isBelow_iff.symm

/-- The bytes of the file at a location, if there is one. -/
def fileAt?
    (tree : FileTree)
    (location : Location) :
    Option (List UInt8) :=
  match tree.nodeAt? location with
  | some (.file bytes) => some bytes
  | _ => none

/-- Whether everything in a tree lies in a directory, and paths start at one. -/
structure IsTree
    (tree : FileTree) :
    Prop where
  rooted : tree.nodeAt? tree.workingDirectory = some .directory
  nested :
    ∀ location node,
      tree.nodeAt? location = some node → tree.nodeAt? location.dropLast = some .directory

theorem fileAt?_eq_some
    {tree : FileTree}
    {location : Location}
    {bytes : List UInt8} :
    tree.fileAt? location = some bytes ↔ tree.nodeAt? location = some (.file bytes) := by
  unfold fileAt?
  split
  · rename_i found same
    rw [same]
    simp
  · rename_i other
    simpa using other bytes

@[simp]
theorem nodeAt?_nil
    (tree : FileTree) :
    tree.nodeAt? [] = some .directory :=
  rfl

/-- The root is always a directory. -/
theorem ne_nil_of_free
    {tree : FileTree}
    {location : Location}
    (free : tree.nodeAt? location ≠ some .directory) :
    location ≠ [] := by
  rintro rfl
  exact free rfl

theorem mem_of_lookup
    {α β : Type}
    [BEq α]
    [LawfulBEq α]
    {entries : List (α × β)}
    {key : α}
    {value : β}
    (found : entries.lookup key = some value) :
    (key, value) ∈ entries := by
  obtain ⟨before, after, shape, -⟩ := List.lookup_eq_some_iff.mp found
  rw [shape]
  exact List.mem_append_right _ List.mem_cons_self

theorem lookup_filter_ne
    {location other : Location}
    (apart : other ≠ location)
    (nodes : List (Location × FileNode)) :
    (nodes.filter (·.1 != location)).lookup other = nodes.lookup other := by
  induction nodes with
  | nil =>
      rfl
  | cons entry nodes inductionHypothesis =>
      obtain ⟨place, node⟩ := entry
      by_cases same : place = location
      · subst same
        have differs : (other == place) = false := beq_eq_false_iff_ne.mpr apart
        simp [List.lookup_cons, differs, inductionHypothesis]
      · simp [List.lookup_cons, same, inductionHypothesis]

/-- A node that is put into a tree stands at its location, and the rest of the tree is as
before. -/
theorem nodeAt?_put
    {location : Location}
    (notRoot : location ≠ [])
    (tree : FileTree)
    (node : FileNode)
    (other : Location) :
    (tree.put location node).nodeAt? other =
      if other = location then some node else tree.nodeAt? other := by
  unfold nodeAt? put
  by_cases same : other = location
  · subst same
    simp [notRoot]
  · have differs : (other == location) = false := beq_eq_false_iff_ne.mpr same
    simp [same, List.lookup_cons, differs, lookup_filter_ne same]

/-- Directories stay if a node is put where no directory stands. -/
theorem isDirectory_put
    {tree : FileTree}
    {location other : Location}
    (free : tree.nodeAt? location ≠ some .directory)
    (node : FileNode)
    (isDirectory : tree.nodeAt? other = some .directory) :
    (tree.put location node).nodeAt? other = some .directory := by
  have apart : other ≠ location := by
    rintro rfl
    exact free isDirectory
  rw [nodeAt?_put (ne_nil_of_free free), if_neg apart, isDirectory]

/-! ## Following paths -/

theorem follow_eq_ok
    {tree : FileTree}
    {location found : Location}
    {segments : List String}
    (followed : tree.follow location segments = .ok found) :
    found = segments.foldl step location := by
  induction segments generalizing location with
  | nil =>
      cases followed
      rfl
  | cons segment segments inductionHypothesis =>
      rw [follow] at followed
      split at followed
      · exact inductionHypothesis followed
      · cases followed
      · cases followed

/-- Segments are followed from an existing directory. -/
theorem follow_cons
    {tree : FileTree}
    {location found : Location}
    {segment : String}
    {segments : List String} :
    tree.follow location (segment :: segments) = .ok found ↔
      tree.nodeAt? location = some .directory ∧
        tree.follow (step location segment) segments = .ok found := by
  rw [follow]
  split
  · rename_i isDirectory
    simp [isDirectory]
  · rename_i isFile
    simp [isFile]
  · rename_i isAbsent
    simp [isAbsent]

theorem follow_append
    {tree : FileTree}
    {location found : Location}
    {first second : List String} :
    tree.follow location (first ++ second) = .ok found ↔
      ∃ between, tree.follow location first = .ok between ∧
        tree.follow between second = .ok found := by
  induction first generalizing location with
  | nil =>
      simp [follow]
  | cons segment first inductionHypothesis =>
      rw [List.cons_append, follow_cons, inductionHypothesis]
      simp only [follow_cons, and_assoc, exists_and_left]

/-- A path is located only at its place. -/
theorem locate_eq_ok
    {tree : FileTree}
    {path : Path}
    {location : Location} :
    tree.locate path = .ok location ↔
      path.text ≠ "" ∧ tree.follow (tree.start path) path.segments = .ok location := by
  rw [locate]
  split
  · rename_i isEmpty
    have isEmpty : path.text = "" := by simpa using isEmpty
    simp [isEmpty]
  · rename_i notEmpty
    have notEmpty : path.text ≠ "" := by simpa using notEmpty
    simp [notEmpty]

theorem eq_place_of_locate
    {tree : FileTree}
    {path : Path}
    {location : Location}
    (located : tree.locate path = .ok location) :
    location = path.place tree.workingDirectory :=
  follow_eq_ok (locate_eq_ok.mp located).2

/-! ## Places -/

/-- Names lead downwards. -/
theorem foldl_step_of_isName
    (location : Location)
    {names : List String}
    (areNames : ∀ name ∈ names, Path.IsName name) :
    names.foldl step location = location ++ names := by
  induction names generalizing location with
  | nil =>
      exact (List.append_nil location).symm
  | cons name names inductionHypothesis =>
      rw [List.forall_mem_cons] at areNames
      have downwards : step location name = location ++ [name] := by
        have noParent : (name == "..") = false := beq_eq_false_iff_ne.mpr areNames.1.noParent
        simp [step, areNames.1.noIdle, noParent]
      rw [List.foldl_cons, downwards, inductionHypothesis _ areNames.2, List.append_assoc]
      rfl

/-- A path leads to its place along the segments that lead on from it. -/
theorem foldl_step_lead
    (location : Location)
    (path : Path) :
    path.lead.foldl step location = path.segments.foldl step location := by
  rcases Path.segments_eq_lead path with same | idle
  · rw [same]
  · rw [idle, List.foldl_append]
    rfl

/-- A relative path that is joined to a directory leads on from the place of the directory. -/
theorem place_join
    (workingDirectory : Location)
    (directory : Path)
    {path : Path}
    (relative : path.isAbsolute = false) :
    (directory.join path).place workingDirectory =
      path.segments.foldl step (directory.place workingDirectory) := by
  rw [Path.place, Path.place, Path.segments_join_eq directory relative,
    Path.isAbsolute_join_eq directory relative, List.foldl_append, foldl_step_lead]

/-! ## Well-formed trees -/

theorem isDirectory_start
    {tree : FileTree}
    (isTree : tree.IsTree)
    (path : Path) :
    tree.nodeAt? (tree.start path) = some .directory := by
  unfold start
  split
  · rfl
  · exact isTree.rooted

/-- A tree is well formed if each of its nodes lies in a directory, and paths start at one. -/
theorem IsTree.of_nodes
    {tree : FileTree}
    (rooted : tree.nodeAt? tree.workingDirectory = some .directory)
    (nested : ∀ entry ∈ tree.nodes, tree.nodeAt? entry.1.dropLast = some .directory) :
    tree.IsTree := by
  refine ⟨rooted, fun location node stands => ?_⟩
  cases location with
  | nil =>
      rfl
  | cons name names =>
      exact nested (name :: names, node) (mem_of_lookup stands)

/-- Every location before the end of one where something stands is a directory. -/
theorem IsTree.isDirectory_of_prefix
    {tree : FileTree}
    (isTree : tree.IsTree)
    {location : Location}
    {further : List String}
    {node : FileNode}
    (stands : tree.nodeAt? (location ++ further) = some node)
    (notEmpty : further ≠ []) :
    tree.nodeAt? location = some .directory := by
  induction further using List.reverseRecOn generalizing node with
  | nil =>
      exact absurd rfl notEmpty
  | append_singleton further last inductionHypothesis =>
      have parent := isTree.nested _ _ stands
      rw [← List.append_assoc, List.dropLast_concat] at parent
      by_cases isEmpty : further = []
      · rwa [isEmpty, List.append_nil] at parent
      · exact inductionHypothesis parent isEmpty

/-- A tree stays well formed if a node is put into a directory and replaces no directory. -/
theorem IsTree.put
    {tree : FileTree}
    (isTree : tree.IsTree)
    {location : Location}
    {node : FileNode}
    (parent : tree.nodeAt? location.dropLast = some .directory)
    (free : tree.nodeAt? location ≠ some .directory) :
    (tree.put location node).IsTree := by
  refine ⟨isDirectory_put free node isTree.rooted, fun other found stands => ?_⟩
  refine isDirectory_put free node ?_
  rw [nodeAt?_put (ne_nil_of_free free)] at stands
  split at stands
  · rename_i same
    exact same ▸ parent
  · exact isTree.nested _ _ stands

/-- The directory of a location that a path leads to exists. -/
theorem IsTree.parent_of_follow
    {tree : FileTree}
    (isTree : tree.IsTree)
    {location found : Location}
    {segments : List String}
    (isDirectory : tree.nodeAt? location = some .directory)
    (followed : tree.follow location segments = .ok found) :
    tree.nodeAt? found.dropLast = some .directory := by
  induction segments generalizing location with
  | nil =>
      cases followed
      exact isTree.nested _ _ isDirectory
  | cons segment segments inductionHypothesis =>
      have further := (follow_cons.mp followed).2
      cases segments with
      | nil =>
          cases further
          have parent := isTree.nested _ _ isDirectory
          unfold step
          split
          · exact parent
          · split
            · exact isTree.nested _ _ parent
            · rwa [List.dropLast_concat]
      | cons next segments =>
          exact inductionHypothesis (follow_cons.mp further).1 further

theorem read_eq_ok
    {tree : FileTree}
    {path : Path}
    {bytes : List UInt8} :
    tree.read path = .ok bytes ↔
      ∃ location, tree.locate path = .ok location ∧
        tree.nodeAt? location = some (.file bytes) := by
  rw [read]
  cases tree.locate path with
  | error fault =>
      simp
  | ok location =>
      simp only [Except.ok.injEq, exists_eq_left']
      split
      · rename_i found same
        simp [same]
      · rename_i isDirectory
        simp [isDirectory]
      · rename_i absent
        simp [absent]

/-! ## One path in two trees -/

/-- What can be followed in a tree can be followed in any tree with the same directories. -/
theorem follow_of_directories
    {first second : FileTree}
    (kept :
      ∀ location, first.nodeAt? location = some .directory →
        second.nodeAt? location = some .directory)
    {location found : Location}
    {segments : List String}
    (followed : first.follow location segments = .ok found) :
    second.follow location segments = .ok found := by
  induction segments generalizing location with
  | nil =>
      exact followed
  | cons segment segments inductionHypothesis =>
      obtain ⟨isDirectory, further⟩ := follow_cons.mp followed
      exact follow_cons.mpr ⟨kept location isDirectory, inductionHypothesis further⟩

theorem locate_of_directories
    {first second : FileTree}
    (kept :
      ∀ location, first.nodeAt? location = some .directory →
        second.nodeAt? location = some .directory)
    (workingDirectory : second.workingDirectory = first.workingDirectory)
    {path : Path}
    {found : Location}
    (located : first.locate path = .ok found) :
    second.locate path = .ok found := by
  obtain ⟨notEmpty, followed⟩ := locate_eq_ok.mp located
  refine locate_eq_ok.mpr ⟨notEmpty, follow_of_directories kept ?_⟩
  rwa [start, workingDirectory]

/-- Segments that do not lead upwards lead below where they start. -/
theorem prefix_foldl_step
    (location : Location)
    {segments : List String}
    (noParent : ".." ∉ segments) :
    location <+: segments.foldl step location := by
  induction segments generalizing location with
  | nil =>
      exact List.prefix_rfl
  | cons segment segments inductionHypothesis =>
      rw [List.mem_cons, not_or] at noParent
      refine List.IsPrefix.trans ?_ (inductionHypothesis _ noParent.2)
      unfold step
      split
      · exact List.prefix_rfl
      · split
        · rename_i isParent
          exact absurd (beq_iff_eq.mp isParent).symm noParent.1
        · exact List.prefix_append _ _

/-- A file is reached by the same path in every tree that has it, if nothing on the way leads
upwards. -/
theorem follow_of_file
    {first second : FileTree}
    (isTree : second.IsTree)
    {location found : Location}
    {bytes : List UInt8}
    {segments : List String}
    (noParent : ".." ∉ segments)
    (stands : first.nodeAt? found = some (.file bytes))
    (stood : second.nodeAt? found = some (.file bytes))
    (followed : first.follow location segments = .ok found) :
    second.follow location segments = .ok found := by
  induction segments generalizing location with
  | nil =>
      exact followed
  | cons segment segments inductionHypothesis =>
      have ends := follow_eq_ok followed
      obtain ⟨isDirectory, further⟩ := follow_cons.mp followed
      obtain ⟨rest, whole⟩ := prefix_foldl_step location noParent
      rw [← ends] at whole
      -- The way only leads downwards and has not reached the file, which is no directory.
      have notEmpty : rest ≠ [] := by
        rintro rfl
        rw [List.append_nil] at whole
        rw [whole, stands] at isDirectory
        cases isDirectory
      rw [List.mem_cons, not_or] at noParent
      rw [← whole] at stood
      exact follow_cons.mpr
        ⟨isTree.isDirectory_of_prefix stood notEmpty, inductionHypothesis noParent.2 further⟩

end FileTree

end Phrasebook
