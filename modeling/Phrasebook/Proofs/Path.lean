import Mathlib
import Phrasebook.Path
import Phrasebook.Proofs.Identifier

namespace Phrasebook.Path

/-!
# Segments of paths

What the segments of a path tell about the path, about what it is joined with, and about the
directories that it lies in.
-/

theorem segments_ne_nil
    (path : Path) :
    path.segments ≠ [] := by
  simp [segments, List.splitOnP_ne_nil]

/-- A path is made of its segments. -/
theorem intercalate_segments
    (path : Path) :
    "/".intercalate path.segments = path.text := by
  rw [← String.toList_inj, String.toList_intercalate, segments, List.map_map]
  simp only [Function.comp_def, String.toList_ofList, List.map_id']
  exact List.intercalate_splitOn '/'

theorem eq_of_segments
    {first second : Path}
    (same : first.segments = second.segments) :
    first = second :=
  congrArg Path.mk (by rw [← intercalate_segments first, same, intercalate_segments])

/-- Names without slashes are the segments of the path that they make. -/
theorem segments_intercalate
    {names : List String}
    (notEmpty : names ≠ [])
    (noSlash : ∀ name ∈ names, '/' ∉ name.toList) :
    segments ⟨"/".intercalate names⟩ = names := by
  have cut :
      (['/'].intercalate (names.map String.toList)).splitOn '/' = names.map String.toList :=
    List.splitOn_intercalate '/' (List.forall_mem_map.mpr noSlash) (by simpa using notEmpty)
  rw [segments, String.toList_intercalate]
  change ((['/'].intercalate (names.map String.toList)).splitOn '/').map String.ofList = names
  rw [cut, List.map_map]
  simp [Function.comp_def]

theorem noSlash_of_mem_segments
    {path : Path}
    {segment : String}
    (isMember : segment ∈ path.segments) :
    '/' ∉ segment.toList := by
  obtain ⟨piece, isPiece, rfl⟩ := List.mem_map.mp isMember
  rw [String.toList_ofList]
  intro isSlash
  have apart := (Identifier.mem_of_mem_splitOnP isPiece isSlash).2
  cases apart

/-- A path is absolute just if its first segment is empty and not its only one. -/
theorem isAbsolute_iff
    {path : Path} :
    path.isAbsolute ↔ ∃ rest, rest ≠ [] ∧ path.segments = "" :: rest := by
  rw [isAbsolute, segments]
  cases path.text.toList with
  | nil =>
      simp [List.splitOnP_nil]
  | cons character text =>
      rw [List.splitOnP_cons_eq_if_modifyHead]
      obtain ⟨first, others, shape⟩ :=
        List.exists_cons_of_ne_nil (List.splitOnP_ne_nil (· == '/') text)
      rw [shape]
      by_cases isSlash : character = '/'
      · simp [isSlash]
      · simp [isSlash]

/-! ## Joined paths -/

theorem segments_append_slash
    (first second : String) :
    segments ⟨first ++ "/" ++ second⟩ = segments ⟨first⟩ ++ segments ⟨second⟩ := by
  have cut :
      (first.toList ++ '/' :: second.toList).splitOnP (· == '/') =
        first.toList.splitOnP (· == '/') ++ second.toList.splitOnP (· == '/') :=
    List.splitOnP_append_cons _ _ rfl
  rw [segments, String.toList_append, String.toList_append, List.append_assoc]
  change (List.splitOnP _ (first.toList ++ '/' :: second.toList)).map _ = _
  rw [cut, List.map_append]
  rfl

theorem isAbsolute_join
    {directory path : Path}
    (notEmpty : directory.text ≠ "")
    (relative : path.isAbsolute = false) :
    (directory.join path).isAbsolute = directory.isAbsolute := by
  have noJoin : ¬(path.isAbsolute || directory.text.isEmpty) := by
    simpa [relative] using notEmpty
  have lead : ∀ text : String,
      isAbsolute ⟨directory.text ++ text⟩ = directory.isAbsolute := by
    intro text
    obtain ⟨character, rest, shape⟩ :=
      List.exists_cons_of_ne_nil (mt String.toList_eq_nil_iff.mp notEmpty)
    simp [isAbsolute, String.toList_append, shape]
  rw [join, if_neg noJoin]
  split
  · exact lead path.text
  · rw [String.append_assoc]
    exact lead ("/" ++ path.text)

/-! ## Directories that a path lies in -/

theorem exists_dropIdle
    (segments : List String) :
    ∃ dropped,
      segments = dropped ++ dropIdle segments ∧ ∀ segment ∈ dropped, isIdle segment := by
  fun_induction dropIdle segments with
  | case1 =>
      exact ⟨[], rfl, by simp⟩
  | case2 first =>
      exact ⟨[], rfl, by simp⟩
  | case3 last previous rest idle inductionHypothesis =>
      obtain ⟨dropped, shape, areIdle⟩ := inductionHypothesis
      exact ⟨last :: dropped, congrArg (last :: ·) shape,
        List.forall_mem_cons.mpr ⟨idle, areIdle⟩⟩
  | case4 last previous rest _ =>
      exact ⟨[], rfl, by simp⟩

/-- The directories of a path are made of its first segments. -/
theorem exists_of_mem_ancestorsFrom
    {reversed : List String}
    {ancestor : Path}
    (isMember : ancestor ∈ ancestorsFrom reversed) :
    ancestor = ⟨""⟩ ∨
      ∃ taken left, taken ≠ [] ∧ left ≠ [] ∧ reversed = taken ++ left ∧
        ancestor = ofReversed left := by
  fun_induction ancestorsFrom reversed with
  | case1 =>
      cases isMember
  | case2 first isRoot =>
      cases isMember
  | case3 first isName =>
      exact .inl (List.mem_singleton.mp isMember)
  | case4 last previous rest _ inductionHypothesis =>
      refine (inductionHypothesis isMember).imp_right ?_
      rintro ⟨taken, left, -, notEmpty, shape, same⟩
      exact ⟨last :: taken, left, List.cons_ne_nil _ _, notEmpty, congrArg (last :: ·) shape, same⟩
  | case5 last previous rest _ inductionHypothesis =>
      rcases List.mem_cons.mp isMember with same | further
      · exact .inr ⟨[last], previous :: rest, List.cons_ne_nil _ _, List.cons_ne_nil _ _, rfl, same⟩
      · refine (inductionHypothesis further).imp_right ?_
        rintro ⟨taken, left, -, notEmpty, shape, same⟩
        exact ⟨last :: taken, left, List.cons_ne_nil _ _, notEmpty,
          congrArg (last :: ·) shape, same⟩

/-- A directory that a path lies in is the empty path, the root, or made of the first segments of
the path, and then as absolute as the path. -/
theorem of_mem_ancestors
    {path ancestor : Path}
    (isMember : ancestor ∈ path.ancestors) :
    ancestor = ⟨""⟩ ∨ ancestor = ⟨"/"⟩ ∨
      ∃ further, further ≠ [] ∧ path.segments = ancestor.segments ++ further ∧
        ancestor.isAbsolute = path.isAbsolute := by
  rcases exists_of_mem_ancestorsFrom isMember with same | ⟨taken, left, more, notEmpty, split, same⟩
  · exact .inl same
  obtain ⟨dropped, shape, -⟩ := exists_dropIdle path.segments.reverse
  rw [fromEnd] at split
  rw [split] at shape
  have whole : path.segments = left.reverse ++ (dropped ++ taken).reverse := by
    rw [← List.reverse_append, List.append_assoc, ← shape, List.reverse_reverse]
  rw [ofReversed] at same
  split at same
  · exact .inr (.inl same)
  · rename_i noRoot
    have segments : ancestor.segments = left.reverse := by
      rw [same]
      refine segments_intercalate (by simpa using notEmpty) fun name isName => ?_
      have isSegment : name ∈ path.segments := by
        rw [whole]
        exact List.mem_append_left _ isName
      exact noSlash_of_mem_segments isSegment
    refine .inr (.inr ⟨(dropped ++ taken).reverse, by simp [more], by rw [segments, whole], ?_⟩)
    rw [Bool.eq_iff_iff, isAbsolute_iff, isAbsolute_iff, segments, whole]
    cases names : left.reverse with
    | nil =>
        exact absurd (List.reverse_eq_nil_iff.mp names) notEmpty
    | cons first rest =>
        have noLoneEmpty : first = "" → rest ≠ [] := by
          rintro rfl rfl
          rw [List.reverse_eq_iff] at names
          simp [names] at noRoot
        simp only [List.cons_append, List.cons.injEq]
        constructor
        · rintro ⟨_, _, isEmpty, -⟩
          exact ⟨_, by simp [noLoneEmpty isEmpty], isEmpty, rfl⟩
        · rintro ⟨_, _, isEmpty, -⟩
          exact ⟨_, noLoneEmpty isEmpty, isEmpty, rfl⟩

/-! ## Files below a directory -/

/-- Whether a segment leads to something in a directory. -/
structure IsName
    (segment : String) :
    Prop where
  noIdle : isIdle segment = false
  noParent : segment ≠ ".."
  noSlash : '/' ∉ segment.toList

theorem IsName.ne_empty
    {segment : String}
    (isName : IsName segment) :
    segment ≠ "" := by
  rintro rfl
  cases isName.noIdle

theorem segments_of_isName
    {name : String}
    (isName : IsName name) :
    segments ⟨name⟩ = [name] := by
  have whole := segments_intercalate (List.cons_ne_nil name []) (by simpa using isName.noSlash)
  simpa using whole

theorem isAbsolute_of_isName
    {name : String}
    (isName : IsName name) :
    isAbsolute ⟨name⟩ = false := by
  rw [Bool.eq_false_iff, ne_eq, isAbsolute_iff, segments_of_isName isName]
  rintro ⟨rest, notEmpty, shape⟩
  cases shape
  exact notEmpty rfl

end Phrasebook.Path
