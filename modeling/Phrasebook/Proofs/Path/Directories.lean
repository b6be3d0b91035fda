import Mathlib
import Phrasebook.Proofs.Path

namespace Phrasebook.Path

/-!
# Paths of directories

The segments of a path that names are joined to, and the directory that a path lies in.
-/

/-! ## Joined paths -/

/-- The segments of a directory that lead to what lies in it. An empty segment at its end is not
written again. -/
def lead
    (directory : Path) :
    List String :=
  if directory.segments.getLast? == some "" then
    directory.segments.dropLast
  else
    directory.segments

theorem lead_of_segments
    {directory : Path}
    {before : List String}
    (shape : directory.segments = before ++ [""]) :
    directory.lead = before := by
  simp [lead, shape]

/-- A path that does not end with a slash has no empty segment at its end. -/
theorem lead_of_noSlash
    {directory : Path}
    (notEmpty : directory.text ≠ "")
    (noSlash : directory.text.toList.getLast? ≠ some '/') :
    directory.lead = directory.segments := by
  refine if_neg fun endsEmpty => noSlash ?_
  have whole := List.dropLast_append_getLast? _ (beq_iff_eq.mp endsEmpty)
  have text := intercalate_segments directory
  rw [← whole] at text
  by_cases alone : directory.segments.dropLast = []
  · rw [alone] at text
    exact absurd text.symm (by simpa using notEmpty)
  · rw [String.intercalate_append_of_ne_nil alone (List.cons_ne_nil _ _)] at text
    rw [← text]
    simp

/-- A relative path that is joined to a directory adds its segments. -/
theorem segments_join_eq
    (directory : Path)
    {path : Path}
    (relative : path.isAbsolute = false) :
    (directory.join path).segments = directory.lead ++ path.segments := by
  by_cases isEmpty : directory.text = ""
  · have same : directory.join path = path := by
      simp [join, isEmpty]
    have noLead : directory.lead = [] := by
      have alone : directory.segments = [] ++ [""] := by
        simp [segments, isEmpty, List.splitOnP_nil]
      exact lead_of_segments alone
    rw [same, noLead, List.nil_append]
  · have noJoin : ¬(path.isAbsolute || directory.text.isEmpty) := by
      simpa [relative] using isEmpty
    rw [join, if_neg noJoin]
    split
    · rename_i endsWithSlash
      have last := List.dropLast_append_getLast? '/' (beq_iff_eq.mp endsWithSlash)
      have shape : directory.text = String.ofList directory.text.toList.dropLast ++ "/" := by
        rw [← String.toList_inj, String.toList_append, String.toList_ofList]
        exact last.symm
      have joined := segments_append_slash (String.ofList directory.text.toList.dropLast) path.text
      have alone := segments_append_slash (String.ofList directory.text.toList.dropLast) ""
      rw [← shape] at joined alone
      rw [String.append_empty] at alone
      rw [joined, lead_of_segments alone]
    · rename_i noSlash
      rw [lead_of_noSlash isEmpty (by simpa using noSlash)]
      exact segments_append_slash directory.text path.text

theorem isAbsolute_join_eq
    (directory : Path)
    {path : Path}
    (relative : path.isAbsolute = false) :
    (directory.join path).isAbsolute = directory.isAbsolute := by
  by_cases isEmpty : directory.text = ""
  · have same : directory.join path = path := by
      simp [join, isEmpty]
    have here : directory.isAbsolute = false := by
      simp [isAbsolute, isEmpty]
    rw [same, relative, here]
  · exact isAbsolute_join isEmpty relative

/-- The segments that lead on are those of the directory, but for an empty one at their end. -/
theorem segments_eq_lead
    (directory : Path) :
    directory.segments = directory.lead ∨ directory.segments = directory.lead ++ [""] := by
  unfold lead
  split
  · rename_i endsEmpty
    exact .inr (List.dropLast_append_getLast? _ (beq_iff_eq.mp endsEmpty)).symm
  · exact .inl rfl

/-! ### Names in directories -/

/-- A text without slashes is one segment. -/
theorem segments_of_noSlash
    {name : String}
    (noSlash : '/' ∉ name.toList) :
    segments ⟨name⟩ = [name] := by
  have whole := segments_intercalate (List.cons_ne_nil name []) (by simpa using noSlash)
  simpa using whole

theorem isAbsolute_of_noSlash
    {name : String}
    (noSlash : '/' ∉ name.toList) :
    isAbsolute ⟨name⟩ = false := by
  rw [Bool.eq_false_iff, ne_eq, isAbsolute_iff, segments_of_noSlash noSlash]
  rintro ⟨rest, notEmpty, shape⟩
  exact notEmpty (List.cons.inj shape).2.symm

theorem segments_join_name
    (directory : Path)
    {name : String}
    (isName : IsName name) :
    (directory.join ⟨name⟩).segments = directory.lead ++ [name] := by
  rw [segments_join_eq directory (isAbsolute_of_isName isName), segments_of_isName isName]

theorem isAbsolute_join_name
    (directory : Path)
    {name : String}
    (isName : IsName name) :
    (directory.join ⟨name⟩).isAbsolute = directory.isAbsolute :=
  isAbsolute_join_eq directory (isAbsolute_of_isName isName)

theorem lead_join_name
    (directory : Path)
    {name : String}
    (isName : IsName name) :
    (directory.join ⟨name⟩).lead = directory.lead ++ [name] := by
  rw [lead, segments_join_name directory isName]
  simp [isName.ne_empty]

/-! ## The directory that a path lies in -/

/-- Whether the last segment of a path leads nowhere, so that the path can only lead to a
directory. -/
def endsIdle
    (path : Path) :
    Bool :=
  path.segments.getLast?.any isIdle

/-- The segments of a path that lead somewhere. -/
def moves
    (segments : List String) :
    List String :=
  segments.filter (!isIdle ·)

theorem moves_append
    (first second : List String) :
    moves (first ++ second) = moves first ++ moves second :=
  List.filter_append _ _

theorem moves_dropIdle
    (segments : List String) :
    moves (dropIdle segments) = moves segments := by
  fun_induction dropIdle segments with
  | case1 =>
      rfl
  | case2 first =>
      rfl
  | case3 last previous rest idle inductionHypothesis =>
      rw [inductionHypothesis]
      simp [moves, idle]
  | case4 last previous rest notIdle =>
      rfl

theorem moves_reverse
    (segments : List String) :
    moves segments.reverse = (moves segments).reverse :=
  List.filter_reverse

/-- The segments that lead on from a directory lead to it. -/
theorem moves_lead
    (directory : Path) :
    moves directory.lead = moves directory.segments := by
  rcases segments_eq_lead directory with same | idle
  · rw [same]
  · rw [idle, moves_append]
    simp [moves, isIdle]

/-- Beyond the first segment from the end, the directories of a path are made of the segments
without those at their end that lead nowhere. -/
theorem ancestorsFrom_cons_cons
    (last previous : String)
    (rest : List String) :
    ancestorsFrom (last :: previous :: rest) =
      ofReversed (dropIdle (previous :: rest)) :: ancestorsFrom (dropIdle (previous :: rest)) := by
  induction rest generalizing last previous with
  | nil =>
      rw [ancestorsFrom]
      simp [dropIdle]
  | cons next rest inductionHypothesis =>
      rw [ancestorsFrom, dropIdle]
      by_cases idle : isIdle previous
      · rw [if_pos (by simpa using idle), if_pos idle]
        exact inductionHypothesis previous next
      · rw [if_neg (by simp [idle]), if_neg idle]

theorem dropIdle_of_notIdle
    {last : String}
    (notIdle : isIdle last = false)
    (rest : List String) :
    dropIdle (last :: rest) = last :: rest := by
  cases rest with
  | nil =>
      rfl
  | cons previous rest =>
      rw [dropIdle, notIdle]
      rfl

/-- A name at the end of a path is kept. -/
theorem fromEnd_eq
    {path : Path}
    {before : List String}
    {name : String}
    (shape : path.segments = before ++ [name])
    (notIdle : isIdle name = false) :
    path.fromEnd = name :: before.reverse := by
  rw [fromEnd, shape, List.reverse_append]
  exact dropIdle_of_notIdle notIdle _

theorem dropIdle_ne_nil
    {segments : List String}
    (notEmpty : segments ≠ []) :
    dropIdle segments ≠ [] := by
  fun_induction dropIdle segments with
  | case1 =>
      exact absurd rfl notEmpty
  | case2 first =>
      exact List.cons_ne_nil _ _
  | case3 last previous rest _ inductionHypothesis =>
      exact inductionHypothesis (List.cons_ne_nil _ _)
  | case4 last previous rest _ =>
      exact List.cons_ne_nil _ _

/-- A path that leads on from another one starts where that one does. -/
theorem isAbsolute_of_prefix
    {directory path : Path}
    {further : List String}
    (notEmpty : directory.segments ≠ [""])
    (shape : path.segments = directory.segments ++ further) :
    directory.isAbsolute = path.isAbsolute := by
  rw [Bool.eq_iff_iff, isAbsolute_iff, isAbsolute_iff, shape]
  obtain ⟨first, rest, segments⟩ := List.exists_cons_of_ne_nil (segments_ne_nil directory)
  rw [segments] at notEmpty ⊢
  simp only [List.cons_append, List.cons.injEq]
  constructor
  · rintro ⟨_, more, isEmpty, rfl⟩
    exact ⟨_, List.append_ne_nil_of_left_ne_nil more _, isEmpty, rfl⟩
  · rintro ⟨_, -, rfl, -⟩
    exact ⟨rest, fun alone => notEmpty (by rw [alone]), rfl, rfl⟩

/-- The path of segments that another path starts with, in reverse order. -/
theorem segments_ofReversed
    {path : Path}
    {reversed further : List String}
    (notEmpty : reversed ≠ [])
    (noRoot : reversed ≠ [""])
    (shape : path.segments = reversed.reverse ++ further) :
    (ofReversed reversed).segments = reversed.reverse ∧
      (ofReversed reversed).isAbsolute = path.isAbsolute := by
  have segments : (ofReversed reversed).segments = reversed.reverse := by
    rw [ofReversed, if_neg (by simpa using noRoot)]
    refine segments_intercalate (by simpa using notEmpty) fun name isName => ?_
    have isMember : name ∈ path.segments := by
      rw [shape]
      exact List.mem_append_left _ isName
    exact noSlash_of_mem_segments isMember
  refine ⟨segments, isAbsolute_of_prefix ?_ (by rw [segments, shape])⟩
  rw [segments]
  exact fun alone => noRoot (List.reverse_eq_iff.mp alone)

/-- The directory of a path with a name at its end is found by the segments before the name. -/
theorem exists_parent
    {path : Path}
    {before : List String}
    {name : String}
    (shape : path.segments = before ++ [name])
    (notIdle : isIdle name = false) :
    ∃ directory,
      path.parent? = some directory ∧
      directory.isAbsolute = path.isAbsolute ∧
      moves directory.segments = moves before := by
  rw [parent?, ancestors, fromEnd_eq shape notIdle]
  cases reversed : before.reverse with
  | nil =>
      have alone : before = [] := List.reverse_eq_nil_iff.mp reversed
      have notEmpty : name ≠ "" := by
        rintro rfl
        cases notIdle
      have relative : path.isAbsolute = false := by
        rw [Bool.eq_false_iff, ne_eq, isAbsolute_iff, shape, alone]
        rintro ⟨rest, -, same⟩
        exact notEmpty (List.cons.inj same).1
      refine ⟨⟨""⟩, by simp [ancestorsFrom, notEmpty], by rw [relative]; rfl, ?_⟩
      rw [alone]
      rfl
  | cons previous rest =>
      obtain ⟨dropped, whole, -⟩ := exists_dropIdle (previous :: rest)
      rw [ancestorsFrom_cons_cons]
      refine ⟨_, rfl, ?_⟩
      have same : moves (dropIdle (previous :: rest)).reverse = moves before := by
        rw [moves_reverse, moves_dropIdle, ← reversed, moves_reverse, List.reverse_reverse]
      have notEmpty := dropIdle_ne_nil (List.cons_ne_nil previous rest)
      generalize dropIdle (previous :: rest) = kept at whole same notEmpty ⊢
      have split : path.segments = kept.reverse ++ (dropped.reverse ++ [name]) := by
        rw [shape, ← List.append_assoc, ← List.reverse_append, ← whole, ← reversed,
          List.reverse_reverse]
      by_cases isRoot : kept = [""]
      · subst isRoot
        refine ⟨Eq.symm (isAbsolute_iff.mpr ⟨_, ?_, split⟩), same⟩
        simp
      · obtain ⟨segments, start⟩ := segments_ofReversed notEmpty isRoot split
        exact ⟨start, segments ▸ same⟩

end Phrasebook.Path
