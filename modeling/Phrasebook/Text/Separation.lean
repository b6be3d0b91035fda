namespace Phrasebook.Text

/-!
# Cutting text at a delimiter

A delimiter is a nonempty run of characters. Its occurrences are taken from the left and never
overlap, so the pieces of a text joined by the delimiter give the text back.
-/

/-- A nonempty run of characters at which text is cut. -/
structure Delimiter where
  first : Char
  others : List Char
  deriving Repr, DecidableEq

namespace Delimiter

/-- The characters of a delimiter. -/
def toList
    (delimiter : Delimiter) :
    List Char :=
  delimiter.first :: delimiter.others

end Delimiter

/-- What follows `lead` at the start of a text, if the text starts with it. -/
def dropLead? :
    List Char →
    List Char →
    Option (List Char)
  | [], text => some text
  | _ :: _, [] => none
  | expected :: lead, character :: text =>
      if expected = character then
        dropLead? lead text
      else
        none

/-- A text that starts with `lead` is `lead` followed by what is left. -/
theorem dropLead?_eq_some
    {lead text rest : List Char}
    (found : dropLead? lead text = some rest) :
    text = lead ++ rest := by
  induction lead generalizing text with
  | nil =>
      simpa [dropLead?] using found
  | cons expected lead inductionHypothesis =>
      cases text with
      | nil =>
          simp [dropLead?] at found
      | cons character text =>
          by_cases same : expected = character
          · simp only [dropLead?, same, if_true] at found
            rw [inductionHypothesis found, same]
            rfl
          · simp [dropLead?, same] at found

/-- Dropping a lead never makes a text longer. -/
theorem length_le_of_dropLead?
    {lead text rest : List Char}
    (found : dropLead? lead text = some rest) :
    rest.length ≤ text.length := by
  rw [dropLead?_eq_some found]
  simp

/-- The pieces of a text between the occurrences of a delimiter; there is always at least one. -/
def cutAt
    (delimiter : Delimiter) :
    List Char →
    List (List Char)
  | [] => [[]]
  | character :: text =>
      if character = delimiter.first then
        match _found : dropLead? delimiter.others text with
        | some rest => [] :: cutAt delimiter rest
        | none => (cutAt delimiter text).modifyHead (character :: ·)
      else
        (cutAt delimiter text).modifyHead (character :: ·)
  termination_by text => text.length
  decreasing_by
    · have shorter := length_le_of_dropLead? _found
      simp only [List.length_cons]
      omega
    · simp
    · simp

/-- A text with every occurrence of a delimiter replaced. -/
def replaceAll
    (delimiter : Delimiter)
    (replacement : List Char)
    (text : List Char) :
    List Char :=
  replacement.intercalate (cutAt delimiter text)

/-- Whether a delimiter occurs in a text. -/
def occursIn
    (delimiter : Delimiter)
    (text : List Char) :
    Bool :=
  (cutAt delimiter text).length > 1

end Phrasebook.Text
