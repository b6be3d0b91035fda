import Phrasebook.Proofs.Placeholder.Consistency

namespace Phrasebook.Placeholder.ArgumentTable

/-!
# Placeholders that can be resolved

A placeholder with an index is resolved where its argument has the name and the type that it states.
Once it has been declared its argument keeps them, so it can be resolved ever after, whatever else
is declared or refused.
-/

/-- A placeholder with an index is resolved if it agrees with the argument there. -/
theorem resolve_of_agrees
    {table : ArgumentTable}
    {reference : Reference}
    {index : Nat}
    {argument : Argument}
    (indexed : reference.index = some index)
    (found : table.at? index = some argument)
    (names : ∀ name, reference.name = some name → argument.name = name)
    (types : ∀ type, reference.type = some type → argument.type = type) :
    table.resolve reference = .ok argument.index := by
  obtain ⟨writtenIndex, writtenName, writtenType⟩ := reference
  cases indexed
  cases writtenName with
  | none =>
      simp only [resolve, found]
      exact resolveType_eq_ok_iff.mpr ⟨rfl, types⟩
  | some name =>
      simp only [resolve, found]
      refine (if_neg (not_not.mpr (names name rfl))).trans ?_
      exact resolveType_eq_ok_iff.mpr ⟨rfl, types⟩

/-- A name alone is resolved to the first argument that bears it. -/
theorem resolve_of_named?
    {table : ArgumentTable}
    {name : String}
    {argument : Argument}
    (looked : table.named? name = some argument) :
    table.resolve ⟨none, some name, none⟩ = .ok argument.index := by
  simp only [resolve, looked]
  rfl

theorem Honours.resolve
    {table : ArgumentTable}
    {reference : Reference}
    {index : Nat}
    (honoured : table.Honours reference index)
    (wellFormed : table.WellFormed)
    (indexed : reference.index = some index) :
    table.resolve reference = .ok index := by
  obtain ⟨argument, found, names, types⟩ := honoured
  have resolved := resolve_of_agrees indexed found
    (fun name stated => (names name stated).2) fun type stated => (types type stated).2
  rw [wellFormed.placed index argument found] at resolved
  exact resolved

/-! ## Tables that calls leave behind -/

theorem goesBackTo_declareAll
    (references : List Reference) :
    GoesBackTo references (declareAll {} references) :=
  ((goesBackTo_empty references).declareAll fun _ isMember => isMember).1

theorem declareAll_append
    (table : ArgumentTable)
    (earlier later : List Reference) :
    table.declareAll (earlier ++ later) = (table.declareAll earlier).declareAll later :=
  List.foldl_append

/-- A placeholder with an index that can be declared is resolved to it ever after, whatever is
declared or refused then. -/
theorem resolve_of_declared
    {earlier : List Reference}
    {reference : Reference}
    {own index : Nat}
    (indexed : reference.index = some own)
    (declared : ((declareAll {} earlier).declare reference).2 = .ok index)
    (later : List Reference) :
    (declareAll {} (earlier ++ reference :: later)).resolve reference = .ok index := by
  have before := (goesBackTo_declareAll earlier).toArisen
  obtain ⟨rfl, honoured⟩ := honours_of_declare before.wellFormed indexed declared
  have all : GoesBackTo (earlier ++ reference :: later) (declareAll {} earlier) :=
    ((goesBackTo_empty _).declareAll fun _ isMember => List.mem_append_left _ isMember).1
  have isMember : reference ∈ earlier ++ reference :: later := by simp
  have subset : ∀ other ∈ later, other ∈ earlier ++ reference :: later :=
    fun other isLater => by simp [isLater]
  obtain ⟨final, further⟩ := (all.declare isMember).declareAll subset
  rw [declareAll_append]
  exact (honoured.mono further).resolve final.wellFormed indexed

end Phrasebook.Placeholder.ArgumentTable
