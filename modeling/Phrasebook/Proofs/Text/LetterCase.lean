import Mathlib
import Phrasebook.LanguageTag
import Phrasebook.Text.LetterCase

namespace Phrasebook.Text

/-!
# Letter case

Within ASCII a letter has one letter of the other case, and a text changes case letter by letter.
Elsewhere too every character has a lowercase form, and none but the underscore has an underscore in
it.
-/

/-- A property that can be computed holds of all of ASCII if it holds of each code point. -/
theorem of_ascii
    (property : Char → Bool)
    (holds : (List.range 0x80).all fun code => property (Char.ofNat code))
    {character : Char}
    (ascii : character.toNat < 0x80) :
    property character := by
  have known := List.all_eq_true.mp holds character.toNat (List.mem_range.mpr ascii)
  rwa [Char.ofNat_toNat] at known

theorem ascii_of_isAlphanumeric
    {character : Char}
    (alphanumeric : LanguageTag.isAlphanumeric character) :
    character.toNat < 0x80 := by
  simp only [LanguageTag.isAlphanumeric, Char.isAlpha, Char.isUpper, Char.isLower, Char.isDigit,
    Bool.or_eq_true, Bool.and_eq_true, decide_eq_true_eq, UInt32.le_iff_toNat_le] at alphanumeric
  have code : character.toNat = character.val.toNat := rfl
  rcases alphanumeric with (⟨_, bounded⟩ | ⟨_, bounded⟩) | ⟨_, bounded⟩
  · have last : ('Z' : Char).val.toNat = 90 := rfl
    omega
  · have last : ('z' : Char).val.toNat = 122 := rfl
    omega
  · have last : ('9' : Char).val.toNat = 57 := rfl
    omega

theorem ascii_of_all_isAlphanumeric
    {text : List Char}
    (alphanumeric : text.all LanguageTag.isAlphanumeric) :
    ∀ character ∈ text, character.toNat < 0x80 :=
  fun character member =>
    ascii_of_isAlphanumeric (List.all_eq_true.mp alphanumeric character member)

theorem isAlphanumeric_of_isAlpha
    {character : Char}
    (letter : character.isAlpha) :
    LanguageTag.isAlphanumeric character :=
  Bool.or_eq_true_iff.mpr (.inl letter)

theorem isAlphanumeric_of_isDigit
    {character : Char}
    (digit : character.isDigit) :
    LanguageTag.isAlphanumeric character :=
  Bool.or_eq_true_iff.mpr (.inr digit)

/-- A property that can be computed holds of all ASCII letters and digits if it holds of each. -/
theorem of_isAlphanumeric
    (property : Char → Bool)
    (holds :
      (List.range 0x80).all fun code =>
        !LanguageTag.isAlphanumeric (Char.ofNat code) || property (Char.ofNat code))
    {character : Char}
    (alphanumeric : LanguageTag.isAlphanumeric character) :
    property character := by
  have known :=
    of_ascii (fun character =>
      !LanguageTag.isAlphanumeric character || property character) holds
      (ascii_of_isAlphanumeric alphanumeric)
  simpa [alphanumeric] using known

theorem isAlphanumeric_of_isUpper
    {character : Char}
    (capital : character.isUpper) :
    LanguageTag.isAlphanumeric character := by
  simp [LanguageTag.isAlphanumeric, Char.isAlpha, capital]

/-- A capital comes back from its lowercase form. -/
theorem toUpper_toLower_of_isUpper
    {character : Char}
    (capital : character.isUpper) :
    character.toLower.toUpper = character := by
  have returned :=
    of_isAlphanumeric
      (fun character =>
        !character.isUpper || character.toLower.toUpper == character)
      (by decide +kernel) (isAlphanumeric_of_isUpper capital)
  simpa [capital] using returned

/-- A letter has a capital. -/
theorem isUpper_toUpper_toLower
    {character : Char}
    (letter : character.isAlpha) :
    character.toLower.toUpper.isUpper := by
  have known :=
    of_isAlphanumeric
      (fun character => !character.isAlpha || character.toLower.toUpper.isUpper)
      (by decide +kernel) (isAlphanumeric_of_isAlpha letter)
  simpa only [letter, Bool.not_true, Bool.false_or] using known

theorem isUppercase_of_isAlphanumeric
    {character : Char}
    (alphanumeric : LanguageTag.isAlphanumeric character) :
    isUppercase character = character.isUpper :=
  beq_iff_eq.mp
    (of_isAlphanumeric (fun character => isUppercase character == character.isUpper)
      (by decide +kernel) alphanumeric)

theorem isLowercase_of_isAlphanumeric
    {character : Char}
    (alphanumeric : LanguageTag.isAlphanumeric character) :
    isLowercase character = character.isLower :=
  beq_iff_eq.mp
    (of_isAlphanumeric (fun character => isLowercase character == character.isLower)
      (by decide +kernel) alphanumeric)

theorem lowercase_of_ascii
    {character : Char}
    (ascii : character.toNat < 0x80) :
    lowercase character = [character.toLower] :=
  if_pos ascii

theorem uppercase_of_ascii
    {character : Char}
    (ascii : character.toNat < 0x80) :
    uppercase character = [character.toUpper] :=
  if_pos ascii

theorem lowercase_of_isAlphanumeric
    {character : Char}
    (alphanumeric : LanguageTag.isAlphanumeric character) :
    lowercase character = [character.toLower] :=
  lowercase_of_ascii (ascii_of_isAlphanumeric alphanumeric)

/-- Within ASCII no letter of a text looks at its neighbours. -/
theorem lowercaseFrom_of_ascii
    (afterCased : Bool)
    {text : List Char}
    (ascii : ∀ character ∈ text, character.toNat < 0x80) :
    lowercaseFrom afterCased text = text.map Char.toLower := by
  induction text generalizing afterCased with
  | nil =>
      rfl
  | cons character text inductionHypothesis =>
      rw [List.forall_mem_cons] at ascii
      have noSigma : character ≠ 'Σ' := by
        rintro rfl
        exact absurd ascii.1 (by decide)
      simp [lowercaseFrom, noSigma, lowercase_of_ascii ascii.1, inductionHypothesis _ ascii.2]

theorem lowercaseText_of_ascii
    {text : List Char}
    (ascii : ∀ character ∈ text, character.toNat < 0x80) :
    lowercaseText text = text.map Char.toLower :=
  lowercaseFrom_of_ascii false ascii

/-! ## Lowercase forms of all characters -/

/-- The lowercase form of a character is that of an ASCII letter, an expansion or a shift. -/
theorem lowercase_cases
    (character : Char) :
    (character.toNat < 0x80 ∧ lowercase character = [character.toLower]) ∨
      (∃ codes,
        (character.toNat, codes) ∈ lowercaseExpansions ∧
          lowercase character = codes.map Char.ofNat) ∨
      lowercase character = [shifted lowercaseShifts character] := by
  by_cases ascii : character.toNat < 0x80
  · exact .inl ⟨ascii, lowercase_of_ascii ascii⟩
  · refine .inr ?_
    rw [lowercase, if_neg ascii, mapped]
    split
    · rename_i codes found
      obtain ⟨before, after, shape, -⟩ := List.lookup_eq_some_iff.mp found
      refine .inl ⟨codes, ?_, rfl⟩
      rw [shape]
      exact List.mem_append_right _ List.mem_cons_self
    · exact .inr rfl

/-- Every character has a lowercase form. -/
theorem lowercase_ne_nil
    (character : Char) :
    lowercase character ≠ [] := by
  have expanded : ∀ expansion ∈ lowercaseExpansions, expansion.2 ≠ [] := by decide
  rcases lowercase_cases character with ⟨-, same⟩ | ⟨codes, listed, same⟩ | same
  · rw [same]
    exact List.cons_ne_nil _ _
  · rw [same, ne_eq, List.map_eq_nil_iff]
    exact expanded _ listed
  · rw [same]
    exact List.cons_ne_nil _ _

/-- No shift leads to an underscore from another character. -/
theorem shifted_ne_underscore
    {character : Char}
    (other : character ≠ '_') :
    shifted lowercaseShifts character ≠ '_' := by
  have apart :
      ∀ shift ∈ lowercaseShifts, shift.run.contains (0x5F - shift.distance).toNat = false := by
    decide +kernel
  intro same
  unfold shifted at same
  split at same
  · rename_i shift found
    have moved : (character.toNat + shift.distance).toNat = 0x5F := by
      have codes := congrArg Char.toNat same
      rw [Char.toNat_ofNat] at codes
      split at codes
      · exact codes
      · cases codes
    have source : character.toNat = (0x5F - shift.distance).toNat := by omega
    have inRun := List.find?_some found
    rw [source, apart shift (List.mem_of_find?_eq_some found)] at inRun
    cases inRun
  · exact other same

/-- No other character has an underscore in its lowercase form. -/
theorem underscore_not_mem_lowercase
    {character : Char}
    (other : character ≠ '_') :
    '_' ∉ lowercase character := by
  have expanded :
      ∀ expansion ∈ lowercaseExpansions, '_' ∉ expansion.2.map Char.ofNat := by
    decide
  rcases lowercase_cases character with ⟨ascii, same⟩ | ⟨codes, listed, same⟩ | same
  · have known :=
      of_ascii (fun character => character == '_' || character.toLower != '_')
        (by decide +kernel) ascii
    have apart : character.toLower ≠ '_' := by simpa [other] using known
    rw [same, List.mem_singleton]
    exact apart.symm
  · rw [same]
    exact expanded _ listed
  · rw [same, List.mem_singleton]
    exact (shifted_ne_underscore other).symm

end Phrasebook.Text
