import Mathlib.Data.List.Forall2

namespace Phrasebook

/-!
# Results of computations in steps
-/

/-- A computation in two steps succeeds only if both do. -/
theorem bind_eq_ok
    {ε α β : Type}
    {first : Except ε α}
    {next : α → Except ε β}
    {result : β}
    (succeeded : (first >>= next) = .ok result) :
    ∃ value, first = .ok value ∧ next value = .ok result := by
  cases first with
  | error error =>
      cases succeeded
  | ok value =>
      exact ⟨value, rfl, succeeded⟩

/-- What is put in front of the items of a computation is in front of them if it succeeds. -/
theorem cons_of_map_eq_ok
    {ε α : Type}
    {item : α}
    {computed : Except ε (List α)}
    {found : List α}
    (mapped : computed.map (item :: ·) = .ok found) :
    ∃ rest, computed = .ok rest ∧ found = item :: rest := by
  cases computed with
  | error error =>
      cases mapped
  | ok rest =>
      cases mapped
      exact ⟨rest, rfl, rfl⟩

/-- A computation for each member of a list succeeds only if all of them do. -/
theorem forall₂_of_mapM_eq_ok
    {ε α β : Type}
    {compute : α → Except ε β}
    {items : List α}
    {results : List β}
    (succeeded : items.mapM compute = .ok results) :
    List.Forall₂ (fun item result => compute item = .ok result) items results := by
  induction items generalizing results with
  | nil =>
      cases succeeded
      exact .nil
  | cons item items inductionHypothesis =>
      rw [List.mapM_cons] at succeeded
      obtain ⟨first, firstComputed, rest⟩ := bind_eq_ok succeeded
      obtain ⟨further, furtherComputed, rest⟩ := bind_eq_ok rest
      cases rest
      exact .cons firstComputed (inductionHypothesis furtherComputed)

theorem mapM_eq_ok_iff
    {ε α β : Type}
    {compute : α → Except ε β}
    {items : List α}
    {results : List β} :
    items.mapM compute = .ok results ↔
      List.Forall₂ (fun item result => compute item = .ok result) items results := by
  refine ⟨forall₂_of_mapM_eq_ok, fun computed => ?_⟩
  induction computed with
  | nil =>
      rfl
  | cons first further inductionHypothesis =>
      rw [List.mapM_cons, first, inductionHypothesis]
      rfl

/-- A computation for each member of a list fails as it does for the first that it fails for. -/
theorem mapM_eq_error_iff
    {ε α β : Type}
    {compute : α → Except ε β}
    {items : List α}
    {error : ε} :
    items.mapM compute = .error error ↔
      ∃ before item after results,
        items = before ++ item :: after ∧
        List.Forall₂ (fun item result => compute item = .ok result) before results ∧
        compute item = .error error := by
  constructor
  · intro failed
    induction items with
    | nil =>
        cases failed
    | cons first items inductionHypothesis =>
        rw [List.mapM_cons] at failed
        cases computed : compute first with
        | error fault =>
            rw [computed] at failed
            cases failed
            exact ⟨[], first, items, [], rfl, .nil, computed⟩
        | ok result =>
            cases further : items.mapM compute with
            | ok results =>
                rw [computed, further] at failed
                cases failed
            | error fault =>
                rw [computed, further] at failed
                cases failed
                obtain ⟨before, item, after, results, rfl, earlier, later⟩ :=
                  inductionHypothesis further
                exact ⟨first :: before, item, after, result :: results, rfl,
                  .cons computed earlier, later⟩
  · rintro ⟨before, item, after, results, rfl, earlier, failed⟩
    induction earlier with
    | nil =>
        rw [List.nil_append, List.mapM_cons, failed]
        rfl
    | cons first further inductionHypothesis =>
        rw [List.cons_append, List.mapM_cons, first, inductionHypothesis]
        rfl

/-- Computations that agree on each member of a list agree on the whole list. -/
theorem mapM_congr_of_mem
    {ε α β : Type}
    {first second : α → Except ε β}
    {items : List α}
    (same : ∀ item ∈ items, first item = second item) :
    items.mapM first = items.mapM second := by
  induction items with
  | nil =>
      rfl
  | cons item items inductionHypothesis =>
      rw [List.forall_mem_cons] at same
      rw [List.mapM_cons, List.mapM_cons, same.1, inductionHypothesis same.2]

/-- A member of the first list is related to a member of the second. -/
theorem exists_related_of_mem
    {α β : Type}
    {related : α → β → Prop}
    {first : List α}
    {second : List β}
    {item : α}
    (all : List.Forall₂ related first second)
    (member : item ∈ first) :
    ∃ other ∈ second, related item other := by
  induction all with
  | nil =>
      cases member
  | cons holds further inductionHypothesis =>
      rcases List.mem_cons.mp member with rfl | later
      · exact ⟨_, List.mem_cons_self, holds⟩
      · obtain ⟨other, otherMember, otherHolds⟩ := inductionHypothesis later
        exact ⟨other, List.mem_cons_of_mem _ otherMember, otherHolds⟩

/-- A member of the second list is related to a member of the first. -/
theorem exists_related_to_mem
    {α β : Type}
    {related : α → β → Prop}
    {first : List α}
    {second : List β}
    {item : β}
    (all : List.Forall₂ related first second)
    (member : item ∈ second) :
    ∃ other ∈ first, related other item :=
  exists_related_of_mem (List.Forall₂.flip all) member

end Phrasebook
