import Phrasebook.Proofs.Catalog.Consistency
import Phrasebook.Proofs.Placeholder.Recognition
import Phrasebook.Proofs.Validation.Bundle

namespace Phrasebook.Catalog

open Placeholder
  (IsCandidate IsPlaceholder IsShape Reference argumentLimit largestIndex referenceOf)

/-!
# Indices beyond the limit

A root declaration without problems has no placeholder whose index is beyond the number of arguments
that a message may have. So a candidate with the shape of such a placeholder is reported, as long as
its index can be written. A still larger index makes no placeholder of the candidate, which is kept
as text, and nothing is reported.
-/

/-- The placeholders of a root declaration without problems have indices below the limit. -/
theorem lt_argumentLimit_of_silent
    {sourceSet : SourceSet}
    {root : Locale}
    {property : Properties.Property}
    {reference : Reference}
    {index : Nat}
    (silent : (rootEntry sourceSet root property).2 = [])
    (isMember : reference ∈ placeholdersOf sourceSet property)
    (indexed : reference.index = some index) :
    index < argumentLimit := by
  have complete := (soundRoot_of_rootEntry silent).complete
  simp only [rootEntry, List.append_eq_nil_iff, List.map_eq_nil_iff] at silent
  have numbers := numberArguments_of_noFault silent.1.2 complete
  rw [placeholdersOf_eq] at isMember
  exact Placeholder.ArgumentTable.bounded_of_numberArguments numbers isMember indexed

/-- A candidate that is a placeholder is one of those of a root declaration without problems. -/
theorem mem_placeholdersOf_of_silent
    {sourceSet : SourceSet}
    {root : Locale}
    {property : Properties.Property}
    {variant : String}
    {before content after : List Char}
    {reference : Reference}
    (silent : (rootEntry sourceSet root property).2 = [])
    (isVariant : variant ∈ property.variants)
    (candidate : IsCandidate (sourceSet.transformed variant).toList before content after)
    (placeholder : IsPlaceholder content reference) :
    reference ∈ placeholdersOf sourceSet property := by
  obtain ⟨_, _, tokens, scanned, _⟩ :=
    exists_related_of_mem (soundRoot_of_rootEntry silent).variants
      (List.mem_map.mpr ⟨variant, isVariant, rfl⟩)
  obtain ⟨earlier, later, rfl, _, _⟩ :=
    (Placeholder.recognize_of_scan scanned).every before content after reference candidate
      placeholder
  exact ⟨variant, isVariant, _, scanned, by simp⟩

/-- What becomes of a candidate of a root declaration with the shape of a placeholder, whose index
is beyond the limit. If the index can be written, a problem of the key is listed, and no source set
with these resources is valid. Otherwise the candidate is kept as text. -/
structure HandlesIndex
    (sourceSet : SourceSet)
    (resources : ResourceSet)
    (root : Locale)
    (property : Properties.Property)
    (content : List Char)
    (index : Nat) :
    Prop where
  reported :
    index ≤ largestIndex →
      ∃ message,
        keyDiagnostic root resources.root property.key (some property.line) message ∈
          (build sourceSet resources).diagnostics
  rejected :
    index ≤ largestIndex →
      ∀ (tree : FileTree) (input output : Path),
        ResourceSet.load sourceSet tree input = .ok resources →
        ∀ bundle, Validation.validate sourceSet tree input output ≠ .ok bundle
  kept : largestIndex < index → referenceOf content = .ok none

/-- A root declaration with a placeholder beyond the limit has a problem. -/
theorem exists_message_of_tooLarge
    {sourceSet : SourceSet}
    {root : Locale}
    {property : Properties.Property}
    {variant : String}
    {before content after : List Char}
    {reference : Reference}
    {index : Nat}
    (isVariant : variant ∈ property.variants)
    (candidate : IsCandidate (sourceSet.transformed variant).toList before content after)
    (placeholder : IsPlaceholder content reference)
    (indexed : reference.index = some index)
    (tooLarge : argumentLimit ≤ index) :
    ∃ message, message ∈ (rootEntry sourceSet root property).2 := by
  by_contra none
  have silent : (rootEntry sourceSet root property).2 = [] :=
    List.eq_nil_iff_forall_not_mem.mpr (not_exists.mp none)
  have isMember := mem_placeholdersOf_of_silent silent isVariant candidate placeholder
  exact Nat.not_lt.mpr tooLarge (lt_argumentLimit_of_silent silent isMember indexed)

theorem validate_ne_ok_of_listed
    {sourceSet : SourceSet}
    {tree : FileTree}
    {input output : Path}
    {resources : ResourceSet}
    {diagnostic : Diagnostic}
    (loaded : ResourceSet.load sourceSet tree input = .ok resources)
    (listed : diagnostic ∈ (build sourceSet resources).diagnostics)
    (bundle : Bundle) :
    Validation.validate sourceSet tree input output ≠ .ok bundle := by
  intro validated
  obtain ⟨_, others, _, othersLoaded, silent, _⟩ := Validation.validate_eq_ok_iff.mp validated
  rw [loaded] at othersLoaded
  cases othersLoaded
  simp only [Validation.diagnostics, List.append_eq_nil_iff] at silent
  rw [silent.1.1.2] at listed
  cases listed

/-- An index of the root file beyond the limit is reported as long as it can be written. -/
theorem handlesIndex_of_tooLarge
    {sourceSet : SourceSet}
    {resources : ResourceSet}
    {root : Locale}
    {property : Properties.Property}
    {variant : String}
    {before content after : List Char}
    {reference : Reference}
    {index : Nat}
    (rooted : sourceSet.locales[rootIndexOf sourceSet]? = some root)
    (declared : property ∈ resources.root.properties)
    (isVariant : variant ∈ property.variants)
    (candidate : IsCandidate (sourceSet.transformed variant).toList before content after)
    (shape : IsShape content reference)
    (indexed : reference.index = some index)
    (tooLarge : argumentLimit ≤ index) :
    HandlesIndex sourceSet resources root property content index := by
  have reported :
      index ≤ largestIndex →
        ∃ message,
          keyDiagnostic root resources.root property.key (some property.line) message ∈
            (build sourceSet resources).diagnostics := by
    intro writable
    have placeholder : IsPlaceholder content reference := by
      refine ⟨shape, fun other same => ?_⟩
      rw [indexed] at same
      cases same
      exact writable
    obtain ⟨message, written⟩ : ∃ message, message ∈ (rootEntry sourceSet root property).2 :=
      exists_message_of_tooLarge isVariant candidate placeholder indexed tooLarge
    exact ⟨message, keyDiagnostic_mem_build rooted declared written⟩
  refine ⟨reported, fun writable tree input output loaded bundle => ?_, fun unwritable => ?_⟩
  · obtain ⟨message, listed⟩ := reported writable
    exact validate_ne_ok_of_listed loaded listed bundle
  · exact Placeholder.referenceOf_of_unwritable shape indexed unwritable

/-- The largest index that can be written, with a name and a type, in a root file with one key. -/
theorem handlesIndex_of_tooLarge_largest :
    let sourceSet : SourceSet := { targetName := "Messages", locales := [⟨"", 1, "0"⟩] }
    let text := "at \x7b18446744073709551615:size:int\x7d"
    let property : Properties.Property := ⟨"key", [text], 1⟩
    let file : ResourceFile := ⟨"", ⟨"messages.properties"⟩, [property]⟩
    let resources : ResourceSet := ⟨file, [.loaded file], []⟩
    IsCandidate (sourceSet.transformed text).toList "at ".toList
        "18446744073709551615:size:int".toList [] ∧
      IsShape "18446744073709551615:size:int".toList
        ⟨some 18446744073709551615, some "size", some .integer⟩ ∧
      HandlesIndex sourceSet resources ⟨"", 1, "0"⟩ property
        "18446744073709551615:size:int".toList 18446744073709551615 := by
  intro sourceSet text property file resources
  have shape :
      IsShape "18446744073709551615:size:int".toList
        ⟨some 18446744073709551615, some "size", some .integer⟩ := by
    have isWritten : Placeholder.ArgumentType.integer.IsWritten "int".toList :=
      Placeholder.ArgumentType.ofWritten?_eq_some_iff.mp (by cbv)
    have decimal : Text.isNumber "18446744073709551615".toList := by cbv
    have isName : Identifier.isName "size".toList := by cbv
    have value : Text.decimalValue "18446744073709551615".toList = 18446744073709551615 := by cbv
    rw [← value]
    exact .typed decimal isName isWritten
  have candidate :
      IsCandidate (sourceSet.transformed text).toList "at ".toList
        "18446744073709551615:size:int".toList [] :=
    ⟨by cbv, shape.braceless⟩
  have declared : property ∈ resources.root.properties := List.mem_singleton_self property
  have isVariant : text ∈ property.variants := List.mem_singleton_self text
  exact ⟨candidate, shape,
    handlesIndex_of_tooLarge (by cbv) declared isVariant candidate shape rfl (by decide)⟩

/-- An index that is too large to be written is not reported, however far it is beyond the limit. -/
theorem unwritable_index_unreported :
    let sourceSet : SourceSet := { targetName := "Messages", locales := [⟨"", 1, "0"⟩] }
    let text := "\x7b18446744073709551616\x7d"
    let property : Properties.Property := ⟨"key", [text], 1⟩
    let file : ResourceFile := ⟨"", ⟨"messages.properties"⟩, [property]⟩
    let resources : ResourceSet := ⟨file, [.loaded file], []⟩
    IsCandidate (sourceSet.transformed text).toList [] "18446744073709551616".toList [] ∧
      IsShape "18446744073709551616".toList ⟨some 18446744073709551616, none, none⟩ ∧
      (build sourceSet resources).diagnostics = [] := by
  intro sourceSet text property file resources
  have shape : IsShape "18446744073709551616".toList ⟨some 18446744073709551616, none, none⟩ := by
    have decimal : Text.isNumber "18446744073709551616".toList := by cbv
    have value : Text.decimalValue "18446744073709551616".toList = 18446744073709551616 := by cbv
    rw [← value]
    exact .index decimal
  exact ⟨⟨by cbv, shape.braceless⟩, shape, by cbv⟩

end Phrasebook.Catalog
