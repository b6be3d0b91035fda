import Mathlib.Data.List.Nodup
import Phrasebook.Proofs.Text.Encoding
import Phrasebook.Properties.Reader

namespace Phrasebook.Properties

/-!
# The declarations of a properties file

The declarations that are read from a file have distinct keys, none of which is empty, and each has
at least one variant. They do not depend on the encoding of the file.
-/

/-- Whether some declarations have distinct keys, none of them empty, and a variant each. -/
structure WellDeclared
    (properties : List Property) :
    Prop where
  distinct : properties.Pairwise (fun first second => first.key ≠ second.key)
  named : ∀ property ∈ properties, property.key ≠ ""
  inhabited : ∀ property ∈ properties, 0 < property.variants.length

/-- The one declaration of a key. -/
theorem WellDeclared.eq_of_key_eq
    {properties : List Property}
    {first second : Property}
    (declared : WellDeclared properties)
    (firstMember : first ∈ properties)
    (secondMember : second ∈ properties)
    (same : first.key = second.key) :
    first = second :=
  List.inj_on_of_nodup_map (List.pairwise_map.mpr declared.distinct) firstMember secondMember same

theorem get?_eq_some_of_distinct
    {properties : List Property}
    {property : Property}
    (distinct : properties.Pairwise fun first second => first.key ≠ second.key)
    (isMember : property ∈ properties) :
    get? properties property.key = some property := by
  cases found : get? properties property.key with
  | none =>
      exact absurd BEq.rfl (List.find?_eq_none.mp found property isMember)
  | some other =>
      rw [get?] at found
      have same := List.find?_some found
      rw [List.inj_on_of_nodup_map (List.pairwise_map.mpr distinct)
        (List.mem_of_find?_eq_some found) isMember (beq_iff_eq.mp same)]

theorem length_pos_of_decodeVariants
    {written : List Char}
    {variants : List String}
    (decoded : decodeVariants written = .ok variants) :
    0 < variants.length := by
  unfold decodeVariants at decoded
  cases glyphs : decode written with
  | error fault =>
      rw [glyphs] at decoded
      cases decoded
  | ok found =>
      rw [glyphs] at decoded
      cases decoded
      rw [List.length_map]
      exact List.length_pos_iff.mpr (List.splitOnP_ne_nil _ _)

theorem declaration_eq_ok
    {line : LogicalLine}
    {property : Property}
    (declared : declaration line = .ok property) :
    property.key ≠ "" ∧ 0 < property.variants.length := by
  unfold declaration at declared
  simp only at declared
  split at declared
  · cases declared
  · split at declared
    · cases declared
    · rename_i key _ notEmpty
      split at declared
      · cases declared
      · rename_i variants decoded
        cases declared
        refine ⟨?_, length_pos_of_decodeVariants decoded⟩
        rintro rfl
        exact notEmpty rfl

theorem declarationAfter_eq_ok
    {earlier : List Property}
    {line : LogicalLine}
    {property : Property}
    (declared : declarationAfter earlier line = .ok property) :
    declaration line = .ok property ∧ ∀ other ∈ earlier, other.key ≠ property.key := by
  unfold declarationAfter at declared
  split at declared
  · cases declared
  · rename_i found declares
    split at declared
    · cases declared
    · rename_i unused
      cases declared
      refine ⟨declares, fun other member same => ?_⟩
      exact List.find?_eq_none.mp unused other member (beq_iff_eq.mpr same)

/-- What the declarations of some lines keep, after the declarations of earlier lines. -/
theorem wellDeclared_outcomesAfter
    (earlier : List Property)
    (lines : List LogicalLine) :
    WellDeclared ((outcomesAfter earlier lines).filterMap declared?) ∧
      ∀ other ∈ earlier, ∀ property ∈ (outcomesAfter earlier lines).filterMap declared?,
        other.key ≠ property.key := by
  induction lines generalizing earlier with
  | nil =>
      exact ⟨⟨.nil, by simp [outcomesAfter], by simp [outcomesAfter]⟩, by simp [outcomesAfter]⟩
  | cons line lines inductionHypothesis =>
      rw [outcomesAfter]
      split
      · exact inductionHypothesis earlier
      · rename_i property declared
        obtain ⟨declares, fresh⟩ := declarationAfter_eq_ok declared
        obtain ⟨named, inhabited⟩ := declaration_eq_ok declares
        obtain ⟨further, apart⟩ := inductionHypothesis (property :: earlier)
        rw [List.filterMap_cons_some (f := declared?) rfl]
        refine ⟨⟨?_, ?_, ?_⟩, fun other member => ?_⟩
        · exact List.pairwise_cons.mpr ⟨apart property (by simp), further.distinct⟩
        · exact List.forall_mem_cons.mpr ⟨named, further.named⟩
        · exact List.forall_mem_cons.mpr ⟨inhabited, further.inhabited⟩
        · exact List.forall_mem_cons.mpr ⟨fresh other member, apart other (by simp [member])⟩

/-- The declarations of a text that is not refused. -/
theorem wellDeclared_of_read
    {text : List Char}
    {properties : List Property}
    (accepted : read text = .ok properties) :
    WellDeclared properties := by
  unfold read at accepted
  split at accepted
  · cases accepted
    exact (wellDeclared_outcomesAfter [] (logicalLines text)).1
  · cases accepted

/-! ## Files -/

/-- A file declares what its text does, and is refused for the errors of its text. -/
theorem readBytes_of_decodeFile?
    {bytes : List UInt8}
    {text : List Char}
    (decoded : Text.decodeFile? bytes = some text) :
    readBytes bytes = (read text).mapError FileError.malformed := by
  rw [readBytes, decoded]
  cases found : read text with
  | error errors =>
      simp only [found]
      rfl
  | ok properties =>
      simp only [found]
      rfl

/-- The declarations of a file that can be used. -/
theorem wellDeclared_of_readBytes
    {bytes : List UInt8}
    {properties : List Property}
    (succeeded : readBytes bytes = .ok properties) :
    WellDeclared properties := by
  cases decoded : Text.decodeFile? bytes with
  | none =>
      rw [readBytes, decoded] at succeeded
      cases succeeded
  | some text =>
      rw [readBytes_of_decodeFile? decoded] at succeeded
      cases readAs : read text with
      | error errors =>
          rw [readAs] at succeeded
          cases succeeded
      | ok found =>
          rw [readAs] at succeeded
          cases succeeded
          exact wellDeclared_of_read readAs

/-- A file that holds a text is read as the text is, in whichever encoding it holds it. -/
theorem readBytes_bytes
    (encoding : Text.Encoding)
    {text : List Char}
    (notEmpty : text ≠ [])
    (noMark : text.head? ≠ some '\uFEFF') :
    readBytes (encoding.bytes text) = (read text).mapError FileError.malformed :=
  readBytes_of_decodeFile? (Text.decodeFile?_bytes encoding notEmpty noMark)

theorem readBytes_bytes_surrogates :
    readBytes [0xFF, 0xFE, 0x61, 0x00, 0x3D, 0x00, 0x3D, 0xD8, 0x00, 0xDE] =
      (read ['a', '=', Char.ofNat 0x1F600]).mapError FileError.malformed := by
  have bytes :
      (Text.Encoding.utf16 .littleEndian).bytes ['a', '=', Char.ofNat 0x1F600] =
        [0xFF, 0xFE, 0x61, 0x00, 0x3D, 0x00, 0x3D, 0xD8, 0x00, 0xDE] := by
    decide
  rw [← bytes]
  exact readBytes_bytes (.utf16 .littleEndian) (by decide) (by decide)

end Phrasebook.Properties
