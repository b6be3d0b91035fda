import Mathlib
import Phrasebook.Proofs.FileTree.Writing

namespace Phrasebook.FileTree

/-!
# Ways to places

A path leads to its place in every tree in which the directory of the place exists, if its segments
lead upwards only from directories that exist. Directories can be created on the way to a place
just if no file stands on it.
-/

/-! ## Segments that lead back -/

/-- Whether segments that are followed from a location lead upwards only from directories that
exist. -/
def LeadsBack
    (tree : FileTree) :
    Location →
    List String →
    Prop
  | _, [] => True
  | location, segment :: segments =>
      (segment = ".." → tree.nodeAt? location = some .directory) ∧
        LeadsBack tree (step location segment) segments

instance decidableLeadsBack
    (tree : FileTree) :
    (location : Location) →
    (segments : List String) →
    Decidable (LeadsBack tree location segments)
  | _, [] => .isTrue trivial
  | location, segment :: segments =>
      haveI := decidableLeadsBack tree (step location segment) segments
      inferInstanceAs (Decidable (_ ∧ _))

/-- Whether a path leads upwards only from directories that exist. -/
def IsGrounded
    (tree : FileTree)
    (path : Path) :
    Prop :=
  LeadsBack tree (tree.start path) path.segments

instance
    (tree : FileTree)
    (path : Path) :
    Decidable (IsGrounded tree path) :=
  decidableLeadsBack tree _ _

theorem leadsBack_append
    {tree : FileTree}
    {location : Location}
    {first second : List String} :
    LeadsBack tree location (first ++ second) ↔
      LeadsBack tree location first ∧ LeadsBack tree (first.foldl step location) second := by
  induction first generalizing location with
  | nil =>
      simp [LeadsBack]
  | cons segment first inductionHypothesis =>
      simp only [List.cons_append, LeadsBack, inductionHypothesis, List.foldl_cons, and_assoc]

theorem leadsBack_of_noParent
    (tree : FileTree)
    (location : Location)
    {segments : List String}
    (noParent : ".." ∉ segments) :
    LeadsBack tree location segments := by
  induction segments generalizing location with
  | nil =>
      trivial
  | cons segment segments inductionHypothesis =>
      rw [List.mem_cons, not_or] at noParent
      exact ⟨fun same => absurd same.symm noParent.1, inductionHypothesis _ noParent.2⟩

theorem LeadsBack.of_directories
    {first second : FileTree}
    (kept :
      ∀ location, first.nodeAt? location = some .directory →
        second.nodeAt? location = some .directory)
    {location : Location}
    {segments : List String}
    (back : LeadsBack first location segments) :
    LeadsBack second location segments := by
  induction segments generalizing location with
  | nil =>
      trivial
  | cons segment segments inductionHypothesis =>
      exact ⟨fun isParent => kept _ (back.1 isParent), inductionHypothesis back.2⟩

theorem step_of_isIdle
    (location : Location)
    {segment : String}
    (idle : Path.isIdle segment) :
    step location segment = location :=
  if_pos idle

/-- Segments that lead nowhere can be left out. -/
theorem foldl_step_moves
    (location : Location)
    (segments : List String) :
    (Path.moves segments).foldl step location = segments.foldl step location := by
  induction segments generalizing location with
  | nil =>
      rfl
  | cons segment segments inductionHypothesis =>
      rw [Path.moves, List.filter_cons]
      by_cases idle : Path.isIdle segment
      · rw [if_neg (by simp [idle]), List.foldl_cons, step_of_isIdle location idle]
        exact inductionHypothesis location
      · rw [if_pos (by simp [idle])]
        exact inductionHypothesis (step location segment)

theorem leadsBack_moves
    {tree : FileTree}
    {location : Location}
    {segments : List String} :
    LeadsBack tree location (Path.moves segments) ↔ LeadsBack tree location segments := by
  induction segments generalizing location with
  | nil =>
      rfl
  | cons segment segments inductionHypothesis =>
      rw [Path.moves, List.filter_cons]
      by_cases idle : Path.isIdle segment
      · have noParent : segment ≠ ".." := by
          rintro rfl
          exact absurd idle (by decide)
        rw [if_neg (by simp [idle]), LeadsBack, step_of_isIdle location idle, ← inductionHypothesis,
          Path.moves]
        simp [noParent]
      · rw [if_pos (by simp [idle]), LeadsBack, LeadsBack, ← inductionHypothesis, Path.moves]

/-! ## Locations on the way -/

/-- Every location on the way to a directory is a directory. -/
theorem IsTree.isDirectory_of_isPrefix
    {tree : FileTree}
    (isTree : tree.IsTree)
    {location above : Location}
    (isDirectory : tree.nodeAt? location = some .directory)
    (isAbove : above <+: location) :
    tree.nodeAt? above = some .directory := by
  obtain ⟨further, rfl⟩ := isAbove
  by_cases alone : further = []
  · rwa [alone, List.append_nil] at isDirectory
  · exact isTree.isDirectory_of_prefix isDirectory alone

/-- Nothing lies below a file. -/
theorem IsTree.eq_of_file
    {tree : FileTree}
    (isTree : tree.IsTree)
    {location other : Location}
    {bytes : List UInt8}
    {node : FileNode}
    (isFile : tree.nodeAt? location = some (.file bytes))
    (stands : tree.nodeAt? other = some node)
    (isAbove : location <+: other) :
    other = location := by
  obtain ⟨further, rfl⟩ := isAbove
  by_contra apart
  have isDirectory := isTree.isDirectory_of_prefix stands (by simpa using apart)
  rw [isFile] at isDirectory
  cases isDirectory

/-- At most one file stands on the way to a place. -/
theorem IsTree.file_unique
    {tree : FileTree}
    (isTree : tree.IsTree)
    {first second place : Location}
    {bytes content : List UInt8}
    (isFile : tree.nodeAt? first = some (.file bytes))
    (isOther : tree.nodeAt? second = some (.file content))
    (firstAbove : first <+: place)
    (secondAbove : second <+: place) :
    second = first := by
  rcases List.prefix_or_prefix_of_prefix firstAbove secondAbove with above | below
  · exact isTree.eq_of_file isFile isOther above
  · exact (isTree.eq_of_file isOther isFile below).symm

/-- A file on the way to a place stands above whatever is missing on the way. -/
theorem IsTree.isPrefix_of_absent
    {tree : FileTree}
    (isTree : tree.IsTree)
    {blocker missing place : Location}
    {bytes : List UInt8}
    (isFile : tree.nodeAt? blocker = some (.file bytes))
    (absent : tree.nodeAt? missing = none)
    (onTheWay : blocker <+: place)
    (missingAbove : missing <+: place) :
    blocker <+: missing.dropLast := by
  rcases List.prefix_or_prefix_of_prefix onTheWay missingAbove with above | below
  · rcases List.eq_nil_or_concat' missing with rfl | ⟨location, name, rfl⟩
    · exact above
    · rw [List.dropLast_concat]
      rcases List.prefix_concat_iff.mp above with same | isAbove
      · rw [← same, isFile] at absent
        cases absent
      · exact isAbove
  · obtain ⟨further, rfl⟩ := below
    by_cases alone : further = []
    · rw [alone, List.append_nil, absent] at isFile
      cases isFile
    · rw [isTree.isDirectory_of_prefix isFile alone] at absent
      cases absent

/-- From a directory only a name leads to something other than a directory. -/
theorem IsTree.step_eq_append
    {tree : FileTree}
    (isTree : tree.IsTree)
    {location : Location}
    {segment : String}
    (isDirectory : tree.nodeAt? location = some .directory)
    (leaves : tree.nodeAt? (step location segment) ≠ some .directory) :
    step location segment = location ++ [segment] := by
  unfold step at leaves ⊢
  by_cases idle : Path.isIdle segment
  · rw [if_pos idle] at leaves
    exact absurd isDirectory leaves
  · by_cases isParent : segment == ".."
    · rw [if_neg idle, if_pos isParent] at leaves
      exact absurd (isTree.nested _ _ isDirectory) leaves
    · rw [if_neg idle, if_neg isParent]

/-- A location where segments are followed is a directory already, or lies on the way to where they
lead. -/
theorem IsTree.isPrefix_or_isDirectory
    {tree : FileTree}
    (isTree : tree.IsTree)
    {location : Location}
    {segments : List String}
    (back : LeadsBack tree location segments) :
    location <+: segments.foldl step location ∨ tree.nodeAt? location = some .directory := by
  induction segments generalizing location with
  | nil =>
      exact .inl List.prefix_rfl
  | cons segment segments inductionHypothesis =>
      rw [List.foldl_cons]
      have further := inductionHypothesis back.2
      by_cases idle : Path.isIdle segment
      · rwa [step_of_isIdle location idle] at further ⊢
      · by_cases isParent : segment = ".."
        · exact .inr (back.1 isParent)
        · have downwards : step location segment = location ++ [segment] := by
            simp [step, idle, isParent]
          rw [downwards] at further ⊢
          rcases further with onTheWay | isDirectory
          · exact .inl ((List.prefix_append _ _).trans onTheWay)
          · exact .inr (isTree.isDirectory_of_isPrefix isDirectory (List.prefix_append _ _))

/-- Segments can be followed to an existing directory. -/
theorem IsTree.follow_of_isDirectory
    {tree : FileTree}
    (isTree : tree.IsTree)
    {location : Location}
    {segments : List String}
    (back : LeadsBack tree location segments)
    (isDirectory : tree.nodeAt? (segments.foldl step location) = some .directory) :
    tree.follow location segments = .ok (segments.foldl step location) := by
  induction segments generalizing location with
  | nil =>
      rfl
  | cons segment segments inductionHypothesis =>
      refine follow_cons.mpr ⟨?_, inductionHypothesis back.2 isDirectory⟩
      rcases isTree.isPrefix_or_isDirectory back with onTheWay | already
      · exact isTree.isDirectory_of_isPrefix isDirectory onTheWay
      · exact already

/-! ## Paths that end with a name -/

/-- Whether a path ends with the name of something in a directory. -/
def EndsWithName
    (path : Path) :
    Prop :=
  ∃ before name, path.segments = before ++ [name] ∧ Path.IsName name

section EndsWithName

variable
  {tree : FileTree}
  {path : Path}

theorem place_eq_append
    (workingDirectory : Location)
    {before : List String}
    {name : String}
    (shape : path.segments = before ++ [name])
    (isName : Path.IsName name) :
    path.place workingDirectory =
      before.foldl step (if path.isAbsolute then [] else workingDirectory) ++ [name] := by
  rw [Path.place, shape, List.foldl_append]
  exact foldl_step_of_isName _ (by simpa using isName)

theorem text_ne_empty
    (ends : EndsWithName path) :
    path.text ≠ "" := by
  obtain ⟨before, name, shape, isName⟩ := ends
  intro isEmpty
  have alone : path.segments = [] ++ [""] := by
    simp [Path.segments, isEmpty, List.splitOnP_nil]
  rw [shape] at alone
  exact isName.ne_empty (List.cons.inj (List.append_inj' alone rfl).2).1

/-- A path with a name at its end leads to its place from the directory of the place. -/
theorem IsTree.locate_eq_place
    (isTree : tree.IsTree)
    (grounded : IsGrounded tree path)
    (ends : EndsWithName path)
    (parent : tree.nodeAt? (path.place tree.workingDirectory).dropLast = some .directory) :
    tree.locate path = .ok (path.place tree.workingDirectory) := by
  have notEmpty := text_ne_empty ends
  obtain ⟨before, name, shape, isName⟩ := ends
  rw [IsGrounded, shape, leadsBack_append] at grounded
  rw [place_eq_append _ shape isName, List.dropLast_concat] at parent
  refine locate_eq_ok.mpr ⟨notEmpty, ?_⟩
  rw [shape, place_eq_append _ shape isName]
  refine follow_append.mpr ⟨_, isTree.follow_of_isDirectory grounded.1 parent, ?_⟩
  refine follow_cons.mpr ⟨parent, ?_⟩
  have downwards := foldl_step_of_isName (before.foldl step (tree.start path))
    (List.forall_mem_singleton.mpr isName)
  exact congrArg Except.ok downwards

/-- A path with a name at its end leads to what stands at its place. -/
theorem IsTree.find?_eq_nodeAt?
    (isTree : tree.IsTree)
    (grounded : IsGrounded tree path)
    (ends : EndsWithName path) :
    tree.find? path = tree.nodeAt? (path.place tree.workingDirectory) := by
  cases stands : tree.nodeAt? (path.place tree.workingDirectory) with
  | none =>
      rw [find?]
      split
      · rfl
      · rename_i location located
        rw [eq_place_of_locate located, stands]
  | some node =>
      rw [find?, isTree.locate_eq_place grounded ends (isTree.nested _ _ stands)]
      exact stands

end EndsWithName

/-! ## Paths below directories -/

section Lead

variable
  {tree : FileTree}

theorem isGrounded_iff_lead
    {path : Path} :
    IsGrounded tree path ↔ LeadsBack tree (tree.start path) path.lead := by
  rw [IsGrounded, ← leadsBack_moves, ← Path.moves_lead, leadsBack_moves]

theorem start_eq_of_isAbsolute
    {first second : Path}
    (same : first.isAbsolute = second.isAbsolute) :
    tree.start first = tree.start second := by
  rw [start, start, same]

/-- Names that lead on from a path keep it grounded. -/
theorem isGrounded_of_lead
    {directory path : Path}
    {names : List String}
    (grounded : IsGrounded tree directory)
    (start : path.isAbsolute = directory.isAbsolute)
    (shape : path.segments = directory.lead ++ names)
    (areNames : ∀ name ∈ names, Path.IsName name) :
    IsGrounded tree path := by
  rw [IsGrounded, shape, start_eq_of_isAbsolute start, leadsBack_append]
  refine ⟨isGrounded_iff_lead.mp grounded, leadsBack_of_noParent _ _ fun isMember => ?_⟩
  exact (areNames _ isMember).noParent rfl

/-- Names that lead on from a path lead downwards from its place. -/
theorem place_of_lead
    (workingDirectory : Location)
    {directory path : Path}
    {names : List String}
    (start : path.isAbsolute = directory.isAbsolute)
    (shape : path.segments = directory.lead ++ names)
    (areNames : ∀ name ∈ names, Path.IsName name) :
    path.place workingDirectory = directory.place workingDirectory ++ names := by
  rw [Path.place, Path.place, shape, List.foldl_append, foldl_step_lead, start,
    foldl_step_of_isName _ areNames]

theorem endsWithName_of_lead
    {directory path : Path}
    {names : List String}
    (notEmpty : names ≠ [])
    (shape : path.segments = directory.lead ++ names)
    (areNames : ∀ name ∈ names, Path.IsName name) :
    EndsWithName path := by
  refine ⟨directory.lead ++ names.dropLast, names.getLast notEmpty, ?_,
    areNames _ (List.getLast_mem notEmpty)⟩
  rw [shape, List.append_assoc, List.dropLast_append_getLast]

end Lead

/-! ## Creating directories on the way -/

/-- Why directories cannot be created along segments if a file stands at a location on the way. The
file counts as in place of a directory if it is the last one asked for. -/
def faultAt
    (blocker : Location) :
    Location →
    List String →
    FileFault
  | _, [] => .notDirectory
  | location, segment :: segments =>
      if step location segment = blocker then
        if segments.isEmpty then
          .alreadyExists
        else
          .notDirectory
      else
        faultAt blocker (step location segment) segments

/-- No directory is created if a file stands on the way. -/
theorem IsTree.createAlong_of_file
    {tree : FileTree}
    (isTree : tree.IsTree)
    {location blocker : Location}
    {bytes : List UInt8}
    {segments : List String}
    (isDirectory : tree.nodeAt? location = some .directory)
    (back : LeadsBack tree location segments)
    (isFile : tree.nodeAt? blocker = some (.file bytes))
    (onTheWay : blocker <+: segments.foldl step location) :
    FileTree.createAlong tree false location segments =
      .error ⟨faultAt blocker location segments, tree⟩ := by
  have noFile : ¬ blocker <+: location := by
    intro isAbove
    have same := isTree.eq_of_file isFile isDirectory isAbove
    rw [same, isFile] at isDirectory
    cases isDirectory
  induction segments generalizing location with
  | nil =>
      exact absurd onTheWay noFile
  | cons segment segments inductionHypothesis =>
      have reached := isTree.isPrefix_or_isDirectory back.2
      rw [FileTree.createAlong, faultAt]
      split
      · rename_i next
        have apart : step location segment ≠ blocker := by
          rintro same
          rw [same, isFile] at next
          cases next
        rw [if_neg apart]
        refine inductionHypothesis next back.2 onTheWay fun isAbove => apart ?_
        exact isTree.eq_of_file isFile next isAbove
      · rename_i content next
        have nextAbove : step location segment <+: segments.foldl step (step location segment) := by
          simpa [next] using reached
        rw [if_pos (isTree.file_unique isFile next onTheWay nextAbove)]
        cases segments <;> rfl
      · -- What is missing would lie below the file, and the way has not reached the file.
        rename_i absent
        have nextAbove : step location segment <+: segments.foldl step (step location segment) := by
          simpa [absent] using reached
        have free : tree.nodeAt? (step location segment) ≠ some .directory := by simp [absent]
        have above := isTree.isPrefix_of_absent isFile absent onTheWay nextAbove
        rw [isTree.step_eq_append isDirectory free, List.dropLast_concat] at above
        exact absurd above noFile

/-- Every directory on the way to a place is created if no file stands on it. -/
theorem IsTree.createAlong_of_noFile
    {tree : FileTree}
    (isTree : tree.IsTree)
    (created : Bool)
    {location : Location}
    {segments : List String}
    (isDirectory : tree.nodeAt? location = some .directory)
    (back : LeadsBack tree location segments)
    (noFile :
      ∀ blocker bytes, tree.nodeAt? blocker = some (.file bytes) →
        ¬ blocker <+: segments.foldl step location) :
    ∃ after,
      FileTree.createAlong tree created location segments = .ok after ∧
      after.workingDirectory = tree.workingDirectory ∧
      ∀ other,
        after.nodeAt? other =
          if other <+: segments.foldl step location then some .directory
          else tree.nodeAt? other := by
  induction segments generalizing tree created location with
  | nil =>
      refine ⟨tree, rfl, rfl, fun other => ?_⟩
      split
      · rename_i isAbove
        exact isTree.isDirectory_of_isPrefix isDirectory isAbove
      · rfl
  | cons segment segments inductionHypothesis =>
      have reached := isTree.isPrefix_or_isDirectory back.2
      rw [FileTree.createAlong]
      split
      · rename_i next
        exact inductionHypothesis isTree created next back.2 noFile
      · rename_i bytes next
        exact absurd (by simpa [next] using reached) (noFile _ bytes next)
      · rename_i absent
        have free : tree.nodeAt? (step location segment) ≠ some .directory := by simp [absent]
        have downwards := isTree.step_eq_append isDirectory free
        have parent : tree.nodeAt? (step location segment).dropLast = some .directory := by
          rwa [downwards, List.dropLast_concat]
        have nextAbove : step location segment <+: segments.foldl step (step location segment) := by
          simpa [absent] using reached
        have nodes := nodeAt?_put (ne_nil_of_free free) tree .directory
        obtain ⟨after, succeeded, workingDirectory, whole⟩ :=
          inductionHypothesis (isTree.put parent free) true (by rw [nodes, if_pos rfl])
            (back.2.of_directories fun _ => isDirectory_put free _) (by
              intro blocker bytes isFile
              rw [nodes] at isFile
              split at isFile
              · cases isFile
              · exact noFile blocker bytes isFile)
        refine ⟨after, succeeded, workingDirectory, fun other => ?_⟩
        rw [whole, List.foldl_cons]
        split
        · rfl
        · rename_i notAbove
          have apart : other ≠ step location segment := by
            rintro rfl
            exact notAbove nextAbove
          rw [nodes, if_neg apart]

end Phrasebook.FileTree
