import Phrasebook.Proofs.TargetName
import Phrasebook.Proofs.Text.Quoted
import Phrasebook.Validation.Output

namespace Phrasebook.Validation

/-!
# What a checked target guarantees

The modules and the type of a target have legal names, which stay on one line wherever they are
shown, and the type is not called like the enumeration of locales.
-/

/-- A target that passes its check. -/
structure IsTarget
    (target : TargetName) :
    Prop where
  modules : ∀ name ∈ target.modules, Identifier.isLegal name
  typeName : Identifier.isLegal target.typeName
  apart : target.typeName ≠ localeTagType

theorem IsTarget.isLegal
    {target : TargetName}
    (isTarget : IsTarget target) :
    target.IsLegal :=
  ⟨isTarget.modules, isTarget.typeName⟩

theorem isTarget_of_checkTarget
    {text : String}
    {target : TargetName}
    (checked : checkTarget text = .ok target) :
    IsTarget target := by
  unfold checkTarget at checked
  split at checked
  · cases checked
  rename_i parsed read
  split at checked
  · cases checked
  rename_i apart
  cases checked
  have legal := (TargetName.parse_eq_ok_iff.mp read).legal
  exact ⟨legal.modules, legal.typeName, by simpa using apart⟩

/-- A legal name stays on one line. -/
theorem onOneLine_of_isLegal
    {name : String}
    (legal : Identifier.isLegal name) :
    Text.OnOneLine name.toList := by
  intro character member
  have isPart := List.all_eq_true.mp (Identifier.isPart_of_isLegal legal).2 character member
  refine ⟨?_, ?_⟩
  · rintro rfl
    revert isPart
    decide
  · rintro rfl
    revert isPart
    decide

/-- The text that names a target stays on one line. -/
theorem IsTarget.onOneLine_display
    {target : TargetName}
    (isTarget : IsTarget target) :
    Text.OnOneLine target.display.toList := by
  rw [TargetName.display, String.toList_append, String.toList_join]
  refine Text.OnOneLine.append ?_ (onOneLine_of_isLegal isTarget.typeName)
  intro character member
  obtain ⟨shown, isShown, inShown⟩ := List.mem_flatMap.mp member
  obtain ⟨name, inNames, rfl⟩ := List.mem_map.mp isShown
  have nameOn := onOneLine_of_isLegal (isTarget.modules name inNames)
  have separatorOn : Text.OnOneLine "::".toList := by decide
  rw [String.toList_append] at inShown
  exact nameOn.append separatorOn character inShown

end Phrasebook.Validation
