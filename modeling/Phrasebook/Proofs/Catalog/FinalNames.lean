import Mathlib
import Phrasebook.Proofs.Catalog.Build

namespace Phrasebook.Catalog

open Placeholder (ArgumentTable Piece Reference Token)

/-!
# Placeholders and the final names of arguments

In a root message without problems each piece agrees with the final argument table, with one
exception. A placeholder by name may be found by a default name that its argument loses when a
placeholder further on states another name for it. This happens where the first declaration of that
other name failed because it was itself a default name at the time.
-/

/-- An index is the one whose argument has a name. -/
def IsIndexOf
    (table : ArgumentTable)
    (name : String)
    (index : Nat) :
    Prop :=
  (∃ argument, table.at? index = some argument ∧ argument.name = name) ∧
    ∀ other argument, table.at? other = some argument → argument.name = name → other = index

/-- A name is the default name of an index for which a placeholder states another name. -/
def IsReplacedDefault
    (references : List Reference)
    (name : String)
    (index : Nat) :
    Prop :=
  name = ArgumentTable.defaultName index ∧
    ∃ reference ∈ references, ∃ stated,
      reference.index = some index ∧ reference.name = some stated ∧ stated ≠ name

/-- A piece agrees with a token in a table. The name of a placeholder by name is that of its
argument just where it is no default name that has been replaced. -/
inductive Agrees
    (table : ArgumentTable)
    (references : List Reference) :
    Token →
    Piece →
    Prop where
  | text (text : String) :
      Agrees table references (.text text) (.text text)
  | indexed
      {reference : Reference}
      {index : Nat}
      {argument : Placeholder.Argument} :
      reference.index = some index →
      table.at? index = some argument →
      argument.index = index →
      (∀ name, reference.name = some name → argument.name = name) →
      (∀ type, reference.type = some type → argument.type = type) →
      Agrees table references (.argument reference) (.argument index)
  | named
      {reference : Reference}
      {name : String}
      {index : Nat}
      {argument : Placeholder.Argument} :
      reference.index = none →
      reference.name = some name →
      table.at? index = some argument →
      (IsIndexOf table name index ↔ ¬IsReplacedDefault references name index) →
      Agrees table references (.argument reference) (.argument index)

/-- In a complete table the name of an argument has its index. -/
theorem isIndexOf_of_complete
    {table : ArgumentTable}
    {index : Nat}
    {argument : Placeholder.Argument}
    (complete : table.checkComplete = .ok ())
    (found : table.at? index = some argument) :
    IsIndexOf table argument.name index :=
  ⟨⟨argument, found, rfl⟩, fun _ _ otherFound otherName =>
    ArgumentTable.index_unique_of_complete complete otherFound found otherName⟩

/-- Every indexed placeholder of bound texts is honoured by the table. -/
theorem honours_of_bindsVariant
    {table : ArgumentTable}
    {texts : List String}
    {variants : List (List Piece)}
    {reference : Reference}
    {index : Nat}
    (bound : List.Forall₂ (BindsVariant table) texts variants)
    (member : reference ∈ referencesOf texts)
    (written : reference.index = some index) :
    table.Honours reference index := by
  obtain ⟨text, textMember, within⟩ := List.mem_flatMap.mp member
  obtain ⟨pieces, _, tokens, scanned, tokensBound⟩ := exists_related_of_mem bound textMember
  rw [scanned] at within
  obtain ⟨piece, _, binds⟩ :=
    exists_related_of_mem tokensBound (mem_referencesIn.mp within)
  cases binds with
  | indexed own honoured =>
      rw [written] at own
      cases own
      exact honoured
  | named noIndex =>
      rw [written] at noIndex
      cases noIndex

/-- What stands for a token in a sound root message agrees with it. -/
theorem agrees_of_binds
    {sourceSet : SourceSet}
    {locale : Locale}
    {property : Properties.Property}
    {entry : RootEntry}
    {token : Token}
    {piece : Piece}
    (sound : SoundRoot sourceSet locale property entry)
    (binds : Binds entry.arguments token piece) :
    Agrees entry.arguments (referencesOf (property.variants.map sourceSet.transformed)) token
      piece := by
  cases binds with
  | text text =>
      exact .text text
  | @indexed reference index written honoured =>
      obtain ⟨argument, found, names, types⟩ := honoured
      exact .indexed written found (sound.arisen.wellFormed.placed index argument found)
        (fun name stated => (names name stated).2) fun type stated => (types type stated).2
  | @named reference name index argument noIndex written found bore =>
      refine .named noIndex written found ⟨?_, fun kept => ?_⟩
      · rintro ⟨⟨final, finalFound, finalName⟩, _⟩
        rintro ⟨_, other, member, stated, otherIndex, otherName, differs⟩
        rw [found] at finalFound
        cases finalFound
        obtain ⟨honoured, honouredFound, names, _⟩ :=
          honours_of_bindsVariant sound.variants member otherIndex
        rw [found] at honouredFound
        cases honouredFound
        have same := (names stated otherName).2
        exact differs (same.symm.trans finalName)
      · have same : argument.name = name := by
          rcases bore with same | ⟨isDefault, nameStated⟩
          · exact same
          · obtain ⟨other, member, otherIndex, otherName⟩ :=
              sound.arisen.stated index argument found nameStated
            by_cases equal : argument.name = name
            · exact equal
            · exact absurd ⟨isDefault, other, member, argument.name, otherIndex, otherName, equal⟩
                kept
        rw [← same]
        exact isIndexOf_of_complete sound.complete found

/-- The pieces of a root message whose key has no problem correspond one for one to the tokens of
its texts and agree with the final arguments. A placeholder by name stands for the one argument of
that final name exactly unless it was found by a default name that another placeholder of the same
value replaces. -/
theorem agrees_of_silent
    (sourceSet : SourceSet)
    (resources : ResourceSet)
    {position : Nat}
    {property : Properties.Property}
    {entry : CatalogEntry}
    (declared : resources.root.properties[position]? = some property)
    (built : (build sourceSet resources).entries[position]? = some entry)
    (silent :
      ∀ diagnostic ∈ (build sourceSet resources).diagnostics, diagnostic.key ≠ some property.key) :
    entry.key = property.key ∧
      List.Forall₂
        (fun variant pieces =>
          ∃ tokens,
            Placeholder.scan (sourceSet.transformed variant) = .ok tokens ∧
            List.Forall₂
              (Agrees entry.arguments
                (referencesOf (property.variants.map sourceSet.transformed)))
              tokens pieces)
        property.variants entry.root.variants := by
  obtain ⟨root, rooted⟩ := exists_root_of_entry (List.mem_of_getElem? built)
  rw [entries_build resources rooted, List.getElem?_map, declared] at built
  cases built
  have sound := soundRoot_of_silent rooted (List.mem_of_getElem? declared) silent
  refine ⟨rfl, ?_⟩
  have bound := List.forall₂_map_left_iff.mp sound.variants
  refine bound.imp fun variant pieces ⟨tokens, scanned, tokensBound⟩ => ?_
  exact ⟨tokens, scanned, tokensBound.imp fun token piece binds => agrees_of_binds sound binds⟩

/-- Placeholders by name may stand before the declarations of their arguments and in another
variant. -/
theorem agrees_of_silent_plural :
    let sourceSet : SourceSet := { targetName := "Messages", locales := [⟨"", 2, "n > 1"⟩] }
    let property : Properties.Property :=
      ⟨"items", ["\x7bwho\x7d has one", "\x7bwho\x7d has \x7b1:n:int\x7d\x7b0:who\x7d"], 1⟩
    let file : ResourceFile := ⟨"", ⟨"messages.properties"⟩, [property]⟩
    let resources : ResourceSet := ⟨file, [.loaded file], []⟩
    ∃ entry,
      (build sourceSet resources).entries[0]? = some entry ∧
      (build sourceSet resources).diagnostics = [] ∧
      entry.key = property.key ∧
      List.Forall₂
        (fun variant pieces =>
          ∃ tokens,
            Placeholder.scan (sourceSet.transformed variant) = .ok tokens ∧
            List.Forall₂
              (Agrees entry.arguments
                (referencesOf (property.variants.map sourceSet.transformed)))
              tokens pieces)
        property.variants entry.root.variants := by
  intro sourceSet property file resources
  have silent : (build sourceSet resources).diagnostics = [] := by cbv
  have built :
      (build sourceSet resources).entries[0]? =
        some (entryOf sourceSet resources ⟨"", 2, "n > 1"⟩ property) := by
    rw [entries_build resources rfl]
    rfl
  refine ⟨_, built, silent, agrees_of_silent sourceSet resources rfl built ?_⟩
  rw [silent]
  simp

/-- A placeholder is found by the default name of index zero, and another placeholder then gives
that index a name that was itself a default name before. In the end the name belongs to index one,
and nothing is reported. -/
theorem default_name_replaced_silently :
    let text :=
      "\x7barg0\x7d\x7b2\x7d\x7b0:arg2\x7d\x7b1:arg0\x7d\x7b0\x7d\x7b2:other\x7d"
    let sourceSet : SourceSet := { targetName := "Messages", locales := [⟨"", 1, "0"⟩] }
    let file : ResourceFile := ⟨"", ⟨"messages.properties"⟩, [⟨"key", [text], 1⟩]⟩
    let resources : ResourceSet := ⟨file, [.loaded file], []⟩
    (build sourceSet resources).diagnostics = [] ∧
      ∃ entry tokens pieces,
        (build sourceSet resources).entries = [entry] ∧
        Placeholder.scan text = .ok (.argument ⟨none, some "arg0", none⟩ :: tokens) ∧
        entry.root.variants = [.argument 0 :: pieces] ∧
        IsIndexOf entry.arguments "arg0" 1 := by
  intro text sourceSet file resources
  have silent : (build sourceSet resources).diagnostics = [] := by cbv
  have scanned :
      Placeholder.scan text =
        .ok [.argument ⟨none, some "arg0", none⟩, .argument ⟨some 2, none, none⟩,
          .argument ⟨some 0, some "arg2", none⟩, .argument ⟨some 1, some "arg0", none⟩,
          .argument ⟨some 0, none, none⟩, .argument ⟨some 2, some "other", none⟩] := by
    cbv
  let entry := entryOf sourceSet resources ⟨"", 1, "0"⟩ ⟨"key", [text], 1⟩
  have bound :
      entry.root.variants =
        [[.argument 0, .argument 2, .argument 0, .argument 1, .argument 0, .argument 2]] := by
    cbv
  have complete : entry.arguments.checkComplete = .ok () := by cbv
  have found : entry.arguments.at? 1 = some ⟨1, "arg0", .text, true, false⟩ := by cbv
  exact ⟨silent, entry, _, _, entries_build resources rfl, scanned, bound,
    isIndexOf_of_complete complete found⟩

end Phrasebook.Catalog
