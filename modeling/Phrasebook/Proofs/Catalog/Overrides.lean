import Phrasebook.Proofs.Catalog.Build

namespace Phrasebook

open Placeholder (ArgumentTable Piece Token)

/-!
# Messages of other locales

A message that overrides a root message has the number of variants that its locale needs, and
refers to no other arguments than those of the root message.
-/

/-- Whether a message refers to the first arguments only, as many as given. -/
def Message.RefersBelow
    (message : Message)
    (count : Nat) :
    Prop :=
  ∀ pieces ∈ message.variants, ∀ index, .argument index ∈ pieces → index < count

namespace Catalog

/-! ## Root messages -/

theorem index_of_binds
    {table : ArgumentTable}
    {token : Token}
    {index : Nat}
    (binds : Binds table token (.argument index)) :
    ∃ argument, table.at? index = some argument := by
  cases binds with
  | indexed _ honoured =>
      obtain ⟨argument, found, _⟩ := honoured
      exact ⟨argument, found⟩
  | named _ _ found _ =>
      exact ⟨_, found⟩

/-- A sound root message refers to its own arguments. -/
theorem SoundRoot.refersBelow
    {sourceSet : SourceSet}
    {locale : Locale}
    {property : Properties.Property}
    {entry : RootEntry}
    (sound : SoundRoot sourceSet locale property entry) :
    entry.root.RefersBelow entry.arguments.arguments.length := by
  intro pieces member index within
  obtain ⟨text, _, tokens, _, bound⟩ := exists_related_to_mem sound.variants member
  obtain ⟨token, _, binds⟩ := exists_related_to_mem bound within
  obtain ⟨argument, found⟩ := index_of_binds binds
  exact ArgumentTable.lt_length_of_at? sound.complete found

/-! ## Overriding messages -/

theorem outcomes_of_messageOf?
    {outcomes : List (Except VariantFault (List Piece))}
    {variants : List (List Piece)}
    (complete : messageOf? outcomes = some variants) :
    outcomes = variants.map .ok := by
  induction outcomes generalizing variants with
  | nil =>
      cases complete
      rfl
  | cons outcome rest inductionHypothesis =>
      cases outcome with
      | error fault =>
          cases complete
      | ok pieces =>
          obtain ⟨further, furtherComplete, rfl⟩ := Option.map_eq_some_iff.mp complete
          rw [inductionHypothesis furtherComplete, List.map_cons]

theorem index_of_resolveToken
    {table : ArgumentTable}
    {token : Token}
    {index : Nat}
    (wellFormed : table.WellFormed)
    (resolved : resolveToken table token = .ok (.argument index)) :
    ∃ argument, table.at? index = some argument := by
  unfold resolveToken at resolved
  split at resolved
  · cases resolved
  · split at resolved
    · cases resolved
    · rename_i accepted
      cases resolved
      obtain ⟨argument, found, _⟩ := ArgumentTable.resolve_eq_ok wellFormed accepted
      exact ⟨argument, found⟩

theorem index_of_resolveVariant
    {table : ArgumentTable}
    {text : String}
    {pieces : List Piece}
    {index : Nat}
    (wellFormed : table.WellFormed)
    (resolved : resolveVariant table text = .ok pieces)
    (within : .argument index ∈ pieces) :
    ∃ argument, table.at? index = some argument := by
  unfold resolveVariant at resolved
  split at resolved
  · cases resolved
  · obtain ⟨token, _, tokenResolved⟩ :=
      exists_related_to_mem (forall₂_of_mapM_eq_ok resolved) within
    exact index_of_resolveToken wellFormed tokenResolved

/-- What a message that overrides a root message in a locale has to be. -/
structure IsOverride
    (locale : Locale)
    (entry : RootEntry)
    (message : Message) :
    Prop where
  noRoot : locale.isRoot = false
  variants : message.variants.length = entry.arity.expectedVariants locale.pluralForms
  refersBelow : message.RefersBelow entry.arguments.arguments.length

theorem isOverride_of_overrideOf
    {sourceSet : SourceSet}
    {locale : Locale}
    {entry : RootEntry}
    {property : Properties.Property}
    {message : Message}
    (wellFormed : entry.arguments.WellFormed)
    (complete : entry.arguments.checkComplete = .ok ())
    (noRoot : locale.isRoot = false)
    (overrides : (overrideOf sourceSet locale entry property).1 = some message) :
    IsOverride locale entry message := by
  unfold overrideOf at overrides
  simp only at overrides
  split at overrides
  · rename_i expected
    obtain ⟨variants, found, rfl⟩ := Option.map_eq_some_iff.mp overrides
    have outcomes := outcomes_of_messageOf? found
    have length := congrArg List.length outcomes
    rw [List.length_map, List.length_map] at length
    refine ⟨noRoot, length.symm.trans expected, fun pieces member index within => ?_⟩
    have resolved :
        .ok pieces ∈ variants.map (.ok : List Piece → Except VariantFault (List Piece)) :=
      List.mem_map_of_mem member
    rw [← outcomes] at resolved
    obtain ⟨variant, _, variantResolved⟩ := List.mem_map.mp resolved
    obtain ⟨argument, argumentFound⟩ :=
      index_of_resolveVariant wellFormed variantResolved within
    exact ArgumentTable.lt_length_of_at? complete argumentFound
  · cases overrides

theorem isOverride_of_overrideIn
    {sourceSet : SourceSet}
    {locale : Locale}
    {resource : LocaleResource}
    {entry : RootEntry}
    {message : Message}
    (wellFormed : entry.arguments.WellFormed)
    (complete : entry.arguments.checkComplete = .ok ())
    (overrides : overrideIn sourceSet locale resource entry = some message) :
    IsOverride locale entry message := by
  unfold overrideIn at overrides
  split at overrides
  · cases overrides
  · rename_i noRoot
    split at overrides
    · split at overrides
      · cases overrides
      · exact isOverride_of_overrideOf wellFormed complete (Bool.eq_false_iff.mpr noRoot) overrides
    · cases overrides

end Catalog

end Phrasebook
