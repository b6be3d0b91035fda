import Phrasebook.Proofs.Identifier
import Phrasebook.TargetName

namespace Phrasebook

/-!
# Texts that name targets

A text names a target just if it consists of the modules and the type of the target with a double
colon between neighbours, and all of these have legal names. The target then shows as the text.
-/

/-- A text is not trimmed away if a character of it is no white space. -/
theorem Text.trim_ne_nil
    {character : Char}
    {text : List Char}
    (isMember : character ∈ text)
    (visible : isWhitespace character = false) :
    trim text ≠ [] := by
  intro isEmpty
  rw [trim, List.reverse_eq_nil_iff, List.dropWhile_eq_nil_iff] at isEmpty
  rw [← List.takeWhile_append_dropWhile (p := isWhitespace) (l := text), List.mem_append]
    at isMember
  have blank : isWhitespace character := by
    rcases isMember with taken | left
    · exact List.mem_takeWhile_imp taken
    · exact isEmpty character (List.mem_reverse.mpr left)
  exact Bool.false_ne_true (visible.symm.trans blank)

namespace TargetName

/-- Whether the modules and the type of a target have legal names. -/
structure IsLegal
    (target : TargetName) :
    Prop where
  modules : ∀ name ∈ target.modules, Identifier.isLegal name
  typeName : Identifier.isLegal target.typeName

/-- Whether a text consists of the legal names of a target, with a double colon between
neighbours. -/
structure IsWrittenAs
    (target : TargetName)
    (text : String) :
    Prop where
  written : text = "::".intercalate (target.modules ++ [target.typeName])
  legal : target.IsLegal

theorem noColon_of_isLegal
    {name : String}
    (legal : Identifier.isLegal name) :
    ':' ∉ name.toList := fun isMember =>
  absurd (List.all_eq_true.mp (Identifier.isPart_of_isLegal legal).2 _ isMember) (by decide)

theorem segments_ne_nil
    (text : String) :
    segments text ≠ [] := by
  simp [segments, Text.cutAt_ne_nil]

/-- A text consists of its segments. -/
theorem intercalate_segments
    (text : String) :
    "::".intercalate (segments text) = text := by
  rw [← String.toList_inj, String.toList_intercalate, segments, List.map_map]
  simp only [Function.comp_def, String.toList_ofList, List.map_id']
  exact Text.intercalate_cutAt separator text.toList

/-- Names without colons are the segments of the text that they make. -/
theorem segments_intercalate
    {names : List String}
    (notEmpty : names ≠ [])
    (noColon : ∀ name ∈ names, ':' ∉ name.toList) :
    segments ("::".intercalate names) = names := by
  have cut :
      Text.cutAt separator (separator.toList.intercalate (names.map String.toList)) =
        names.map String.toList :=
    Text.cutAt_intercalate (by simpa using notEmpty) (List.forall_mem_map.mpr noColon)
  rw [segments, String.toList_intercalate]
  change (Text.cutAt separator (separator.toList.intercalate _)).map String.ofList = names
  rw [cut, List.map_map]
  simp [Function.comp_def]

theorem names_ofSegments
    {names : List String}
    (notEmpty : names ≠ []) :
    (ofSegments names).modules ++ [(ofSegments names).typeName] = names := by
  rw [ofSegments, List.getLast?_eq_some_getLast notEmpty]
  exact List.dropLast_append_getLast notEmpty

theorem ofSegments_names
    (target : TargetName) :
    ofSegments (target.modules ++ [target.typeName]) = target := by
  simp [ofSegments]

theorem isLegal_iff
    {target : TargetName} :
    target.IsLegal ↔ ∀ name ∈ target.modules ++ [target.typeName], Identifier.isLegal name := by
  rw [List.forall_mem_append, List.forall_mem_singleton]
  exact ⟨fun legal => ⟨legal.modules, legal.typeName⟩, fun legal => ⟨legal.1, legal.2⟩⟩

/-- A text with a legal name in it is not blank. -/
theorem IsWrittenAs.trim_ne_nil
    {target : TargetName}
    {text : String}
    (written : target.IsWrittenAs text) :
    Text.trim text.toList ≠ [] := by
  have isPart := Identifier.isPart_of_isLegal written.legal.typeName
  obtain ⟨character, isMember⟩ :=
    List.exists_mem_of_ne_nil _ (mt String.toList_eq_nil_iff.mp isPart.1)
  have visible := Identifier.isWhitespace_of_isPart (List.all_eq_true.mp isPart.2 _ isMember)
  refine Text.trim_ne_nil ?_ visible
  rw [written.written, String.toList_intercalate]
  exact Text.mem_intercalate (List.mem_map_of_mem (by simp)) isMember

/-- The targets that texts name. -/
theorem parse_eq_ok_iff
    {text : String}
    {target : TargetName} :
    parse text = .ok target ↔ target.IsWrittenAs text := by
  constructor
  · intro read
    unfold parse at read
    split at read
    · cases read
    split at read
    · cases read
    rename_i noFault
    cases read
    have names := names_ofSegments (segments_ne_nil text)
    refine ⟨by rw [names, intercalate_segments], isLegal_iff.mpr ?_⟩
    rw [names]
    intro name isMember
    simpa using List.find?_eq_none.mp noFault name isMember
  · intro written
    have legal := isLegal_iff.mp written.legal
    have names : segments text = target.modules ++ [target.typeName] := by
      rw [written.written]
      exact segments_intercalate (by simp) fun name isMember =>
        noColon_of_isLegal (legal name isMember)
    have noFault : (segments text).find? (!Identifier.isLegal ·) = none := by
      rw [names, List.find?_eq_none]
      intro name isMember
      simp [legal name isMember]
    have notBlank : (Text.trim text.toList).isEmpty = false := by
      simpa using written.trim_ne_nil
    unfold parse
    rw [notBlank, noFault, names, ofSegments_names]
    rfl

theorem display_eq_intercalate
    (target : TargetName) :
    target.display = "::".intercalate (target.modules ++ [target.typeName]) := by
  obtain ⟨modules, typeName⟩ := target
  induction modules with
  | nil =>
      simp [display]
  | cons name modules inductionHypothesis =>
      have notEmpty : modules ++ [typeName] ≠ [] := by simp
      rw [List.cons_append, String.intercalate_cons_of_ne_nil notEmpty, ← inductionHypothesis]
      simp [display, String.append_assoc]

end TargetName

end Phrasebook
