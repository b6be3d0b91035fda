import Phrasebook.Proofs.Path.Directories

namespace Phrasebook.Path

/-!
# Paths below a directory

The path that names lead to from a directory has the components of the directory and then the
names. It lies in the directories on the way, the innermost first, and next in the directory itself.
-/

/-! ## Components of longer paths -/

/-- A path that leads on has further components. -/
theorem components_eq_append
    {directory path : Path}
    {first : String}
    {rest more further : List String}
    (start : path.isAbsolute = directory.isAbsolute)
    (shape : path.segments = first :: (rest ++ further))
    (segments : directory.segments = first :: more)
    (same : moves more = moves rest) :
    path.components = directory.components ++ moves further := by
  rw [moves, moves] at same
  rw [components, components, shape, segments, start]
  simp only [List.filter_append, same, moves]
  split
  · rfl
  · split
    · rfl
    · rfl

theorem moves_of_notIdle
    {names : List String}
    (notIdle : ∀ name ∈ names, isIdle name = false) :
    moves names = names :=
  List.filter_eq_self.mpr fun name isMember => by rw [notIdle name isMember]; rfl

theorem moves_of_isIdle
    {segments : List String}
    (areIdle : ∀ segment ∈ segments, isIdle segment) :
    moves segments = [] :=
  List.filter_eq_nil_iff.mpr fun segment isMember => by simp [areIdle segment isMember]

/-- Only the empty path has no segments that lead on. -/
theorem of_lead_eq_nil
    {directory : Path}
    (noLead : directory.lead = []) :
    directory = ⟨""⟩ := by
  have alone : directory.segments = [""] := by
    simpa [noLead, segments_ne_nil] using segments_eq_lead directory
  have text := intercalate_segments directory
  rw [alone, String.intercalate_singleton] at text
  exact congrArg Path.mk text.symm

/-- The components of a path are those of the directory that it leads on from, and its names. -/
theorem components_of_lead
    {directory path : Path}
    {names : List String}
    (notIdle : ∀ name ∈ names, isIdle name = false)
    (start : path.isAbsolute = directory.isAbsolute)
    (shape : path.segments = directory.lead ++ names) :
    path.components = directory.components ++ names := by
  cases lead : directory.lead with
  | nil =>
      rw [lead, List.nil_append] at shape
      have isEmpty := of_lead_eq_nil lead
      subst isEmpty
      cases names with
      | nil =>
          exact absurd shape (segments_ne_nil path)
      | cons name names =>
          have notEmpty : name ≠ "" := by
            rintro rfl
            cases notIdle "" List.mem_cons_self
          have further := moves_of_notIdle (List.forall_mem_cons.mp notIdle).2
          rw [moves] at further
          have relative : path.isAbsolute = false := start
          simp [components, shape, relative, notEmpty, further]
          rfl
  | cons first rest =>
      rw [lead] at shape
      have further : ∃ more, directory.segments = first :: more ∧ moves more = moves rest := by
        rcases segments_eq_lead directory with same | idle
        · exact ⟨rest, same.trans lead, rfl⟩
        · rw [lead] at idle
          exact ⟨rest ++ [""], idle, by simp [moves, isIdle]⟩
      obtain ⟨more, segments, same⟩ := further
      rw [components_eq_append start shape segments same, moves_of_notIdle notIdle]

/-! ## Names below a directory -/

/-- The path that names lead to from a directory. -/
def below
    (directory : Path)
    (names : List String) :
    Path :=
  names.foldl (fun path name => path.join ⟨name⟩) directory

theorem below_concat
    (directory : Path)
    (names : List String)
    (name : String) :
    directory.below (names ++ [name]) = (directory.below names).join ⟨name⟩ :=
  List.foldl_concat _ _ _ _

section

variable
  {names : List String}
  (areNames : ∀ name ∈ names, IsName name)

include areNames

theorem lead_below
    (directory : Path) :
    (directory.below names).lead = directory.lead ++ names := by
  induction names using List.reverseRecOn with
  | nil =>
      exact (List.append_nil _).symm
  | append_singleton names name inductionHypothesis =>
      rw [List.forall_mem_append, List.forall_mem_singleton] at areNames
      rw [below_concat, lead_join_name _ areNames.2, inductionHypothesis areNames.1,
        List.append_assoc]

theorem segments_below
    (directory : Path)
    (notEmpty : names ≠ []) :
    (directory.below names).segments = directory.lead ++ names := by
  obtain ⟨before, last, rfl⟩ := (List.eq_nil_or_concat' names).resolve_left notEmpty
  rw [List.forall_mem_append, List.forall_mem_singleton] at areNames
  rw [below_concat, segments_join_name _ areNames.2, lead_below areNames.1, List.append_assoc]

theorem isAbsolute_below
    (directory : Path) :
    (directory.below names).isAbsolute = directory.isAbsolute := by
  induction names using List.reverseRecOn with
  | nil =>
      rfl
  | append_singleton names name inductionHypothesis =>
      rw [List.forall_mem_append, List.forall_mem_singleton] at areNames
      rw [below_concat, isAbsolute_join_name _ areNames.2, inductionHypothesis areNames.1]

/-- Names below a directory are the components after those of the directory. -/
theorem components_below
    (directory : Path) :
    (directory.below names).components = directory.components ++ names := by
  by_cases isEmpty : names = []
  · subst isEmpty
    exact (List.append_nil _).symm
  · exact components_of_lead (fun name isMember => (areNames name isMember).noIdle)
      (isAbsolute_below areNames directory) (segments_below areNames directory isEmpty)

end

/-! ## The directories on the way -/

theorem mem_tail_inits_iff
    {outer names : List String} :
    outer ∈ names.inits.tail ↔ outer <+: names ∧ outer ≠ [] := by
  cases names with
  | nil =>
      simp
  | cons name names =>
      rw [List.inits_cons, List.tail_cons, List.mem_map]
      constructor
      · rintro ⟨rest, isRest, rfl⟩
        exact ⟨List.cons_prefix_cons.mpr ⟨rfl, (List.mem_inits _ _).mp isRest⟩,
          List.cons_ne_nil _ _⟩
      · rintro ⟨isPrefix, notEmpty⟩
        obtain ⟨rest, rfl, isRest⟩ := (List.prefix_cons_iff.mp isPrefix).resolve_left notEmpty
        exact ⟨rest, (List.mem_inits _ _).mpr isRest, rfl⟩

/-- A path that ends with a name is the directory of what is joined to it. -/
theorem ancestors_join_name
    {path : Path}
    {before : List String}
    {last name : String}
    (shape : path.segments = before ++ [last])
    (notIdle : isIdle last = false)
    (isName : IsName name) :
    (path.join ⟨name⟩).ancestors = path :: path.ancestors := by
  have notEmpty : last ≠ "" := by
    rintro rfl
    cases notIdle
  have lead : path.lead = before ++ [last] := by
    simp [lead, shape, notEmpty]
  have segments : (path.join ⟨name⟩).segments = before ++ [last] ++ [name] := by
    rw [segments_join_name path isName, lead]
  have whole : ofReversed (last :: before.reverse) = path := by
    have noRoot : ¬(last :: before.reverse == [""]) := by simp [notEmpty]
    rw [ofReversed, if_neg noRoot, List.reverse_cons, List.reverse_reverse, ← shape,
      intercalate_segments]
  rw [ancestors, ancestors, fromEnd_eq segments isName.noIdle, fromEnd_eq shape notIdle,
    List.reverse_concat, ancestorsFrom_cons_cons, dropIdle_of_notIdle notIdle, whole]

/-- After the segments that are kept from its end, the segments of a directory lead nowhere. -/
theorem exists_idle
    (directory : Path) :
    ∃ idle,
      directory.segments = (dropIdle directory.lead.reverse).reverse ++ idle ∧
      moves idle = [] := by
  obtain ⟨dropped, whole, areIdle⟩ := exists_dropIdle directory.lead.reverse
  rw [List.reverse_eq_iff, List.reverse_append] at whole
  have noMoves : moves dropped.reverse = [] := moves_of_isIdle (by simpa using areIdle)
  rcases segments_eq_lead directory with same | slash
  · exact ⟨dropped.reverse, same.trans whole, noMoves⟩
  · refine ⟨dropped.reverse ++ [""], by rw [slash, ← List.append_assoc, ← whole], ?_⟩
    rw [moves_append, noMoves]
    rfl

/-- A path without segments that lead nowhere at its end keeps its components. -/
theorem components_ofReversed
    {directory : Path}
    {kept idle : List String}
    (notEmpty : kept ≠ [])
    (segments : directory.segments = kept.reverse ++ idle)
    (noMoves : moves idle = [])
    (noName : kept = [""] → idle ≠ []) :
    (ofReversed kept).components = directory.components := by
  by_cases isRoot : kept = [""]
  · subst isRoot
    have absolute : directory.isAbsolute := isAbsolute_iff.mpr ⟨idle, noName rfl, segments⟩
    rw [moves] at noMoves
    have components : directory.components = ["/"] := by
      simp [components, segments, absolute, noMoves]
    rw [components]
    rfl
  · obtain ⟨keptSegments, start⟩ := segments_ofReversed notEmpty isRoot segments
    obtain ⟨first, rest, shape⟩ :=
      List.exists_cons_of_ne_nil (List.reverse_ne_nil_iff.mpr notEmpty)
    rw [shape] at segments keptSegments
    rw [components_eq_append start.symm segments keptSegments rfl, noMoves, List.append_nil]

/-- What a name leads to from a directory lies in the directory, however this is written. -/
theorem exists_ancestors_join_name
    (directory : Path)
    {name : String}
    (isName : IsName name) :
    ∃ stop further,
      (directory.join ⟨name⟩).ancestors = stop :: further ∧
      stop.components = directory.components := by
  obtain ⟨idle, segments, noMoves⟩ := exists_idle directory
  rw [ancestors, fromEnd_eq (segments_join_name directory isName) isName.noIdle]
  cases reversed : directory.lead.reverse with
  | nil =>
      refine ⟨⟨""⟩, [], by simp [ancestorsFrom, isName.ne_empty], ?_⟩
      rw [of_lead_eq_nil (List.reverse_eq_nil_iff.mp reversed)]
  | cons previous rest =>
      rw [reversed] at segments
      rw [ancestorsFrom_cons_cons]
      refine ⟨_, _, rfl, components_ofReversed ?_ segments noMoves ?_⟩
      · exact dropIdle_ne_nil (List.cons_ne_nil previous rest)
      · rintro isRoot rfl
        rw [isRoot] at segments
        have noLead : directory.lead = [] := lead_of_segments segments
        simp [noLead] at reversed

/-- A path below a directory lies in the directories on the way, the innermost first, and next in
the directory. -/
theorem exists_ancestors_below
    (directory : Path)
    {names : List String}
    {name : String}
    (areNames : ∀ name ∈ names, IsName name)
    (isName : IsName name) :
    ∃ stop further,
      (directory.below (names ++ [name])).ancestors =
        (names.inits.tail.map directory.below).reverse ++ stop :: further ∧
      stop.components = directory.components := by
  induction names using List.reverseRecOn generalizing name with
  | nil =>
      exact exists_ancestors_join_name directory isName
  | append_singleton names last inductionHypothesis =>
      obtain ⟨areBefore, isLast⟩ := List.forall_mem_append.mp areNames
      have isLast := List.forall_mem_singleton.mp isLast
      obtain ⟨stop, further, walk, same⟩ := inductionHypothesis areBefore isLast
      refine ⟨stop, further, ?_, same⟩
      have segments := segments_below areNames directory (by simp)
      rw [← List.append_assoc] at segments
      have inits : (names ++ [last]).inits.tail = names.inits.tail ++ [names ++ [last]] := by
        rw [List.inits_append, List.tail_append_of_ne_nil (by simp [← List.length_pos_iff])]
        rfl
      rw [below_concat, ancestors_join_name segments isLast.noIdle isName, walk, inits]
      simp

end Phrasebook.Path
