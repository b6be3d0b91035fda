import Phrasebook.Placeholder.Scanner
import Phrasebook.Proofs.Result

namespace Phrasebook.Placeholder

/-!
# The placeholders of a scanned message

A placeholder has an index, or else it is a name alone: only an index can be followed by a type.
-/

/-- A placeholder that has no index is a name alone. -/
def IsNameAlone
    (reference : Reference) :
    Prop :=
  ∃ name, reference = ⟨none, some name, none⟩

theorem isNameAlone_of_referenceOfParts
    {content : List Char}
    {parts : List (List Char)}
    {reference : Reference}
    (found : referenceOfParts content parts = .ok (some reference))
    (noIndex : reference.index = none) :
    IsNameAlone reference := by
  cases parts with
  | nil =>
      cases found
  | cons first further =>
      simp only [referenceOfParts] at found
      split at found
      · -- What starts with a number has an index, or is no placeholder.
        repeat' split at found
        all_goals cases found
        all_goals cases noIndex
      · split at found
        · cases found
          exact ⟨_, rfl⟩
        · cases found

theorem referenceOf_of_mem_fragments
    {text : List Char}
    {found : List Fragment}
    {reference : Reference}
    (scanned : fragments text = .ok found)
    (isMember : .argument reference ∈ found) :
    ∃ content, referenceOf content = .ok (some reference) := by
  fun_induction fragments text generalizing found with
  | case1 =>
      cases scanned
      cases isMember
  | case2 text noCandidate inductionHypothesis
  | case5 text content rest candidate noReference inductionHypothesis
  | case6 character text noBrace inductionHypothesis =>
      obtain ⟨further, furtherScanned, rfl⟩ := cons_of_map_eq_ok scanned
      simp only [List.mem_cons, reduceCtorEq, false_or] at isMember
      exact inductionHypothesis furtherScanned isMember
  | case3 =>
      cases scanned
  | case4 text content rest candidate other isReference inductionHypothesis =>
      obtain ⟨further, furtherScanned, rfl⟩ := cons_of_map_eq_ok scanned
      rcases List.mem_cons.mp isMember with same | later
      · cases same
        exact ⟨content, isReference⟩
      · exact inductionHypothesis furtherScanned later

theorem mem_of_mem_grouped
    {pending : List Char}
    {found : List Fragment}
    {reference : Reference}
    (isMember : .argument reference ∈ grouped pending found) :
    .argument reference ∈ found := by
  have noText (text : List Char) : .argument reference ∉ textToken text := by
    unfold textToken
    split <;> simp
  induction found generalizing pending with
  | nil =>
      exact absurd isMember (noText _)
  | cons fragment rest inductionHypothesis =>
      cases fragment with
      | character character =>
          exact List.mem_cons_of_mem _ (inductionHypothesis isMember)
      | argument other =>
          rw [grouped, List.mem_append, List.mem_cons] at isMember
          rcases isMember with inText | same | further
          · exact absurd inText (noText _)
          · cases same
            exact List.mem_cons_self
          · exact List.mem_cons_of_mem _ (inductionHypothesis further)

/-- A placeholder of a message has been read between two braces. -/
theorem referenceOf_of_scan
    {message : String}
    {tokens : List Token}
    {reference : Reference}
    (scanned : scan message = .ok tokens)
    (isMember : .argument reference ∈ tokens) :
    ∃ content, referenceOf content = .ok (some reference) := by
  unfold scan at scanned
  cases found : fragments message.toList with
  | error unknown =>
      rw [found] at scanned
      cases scanned
  | ok all =>
      rw [found] at scanned
      cases scanned
      exact referenceOf_of_mem_fragments found (mem_of_mem_grouped isMember)

/-- A placeholder of a message that has no index is a name alone. -/
theorem isNameAlone_of_scan
    {message : String}
    {tokens : List Token}
    {reference : Reference}
    (scanned : scan message = .ok tokens)
    (isMember : .argument reference ∈ tokens)
    (noIndex : reference.index = none) :
    IsNameAlone reference := by
  obtain ⟨content, isReference⟩ := referenceOf_of_scan scanned isMember
  exact isNameAlone_of_referenceOfParts isReference noIndex

end Phrasebook.Placeholder
