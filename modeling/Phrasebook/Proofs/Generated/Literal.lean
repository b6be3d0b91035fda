import Phrasebook.Proofs.Generated.Lexeme
import Phrasebook.Proofs.Text.Quoted

namespace Phrasebook.Generated

/-!
# Literals and comments

Quoted text is one literal, whose characters are the written forms of those of the text. A comment
goes on to the end of its line and leaves nothing.
-/

/-! ## Literals -/

theorem scan_plainParts
    (written : List Char)
    {parts : List Char}
    (plain : parts.all Text.standsForItself) :
    scan (.literal written) parts = some ([], .literal (written ++ parts)) := by
  induction parts generalizing written with
  | nil =>
      simp [scan]
  | cons character parts inductionHypothesis =>
      rw [List.all_cons, Bool.and_eq_true] at plain
      obtain ⟨stands, further⟩ := plain
      simp only [Text.standsForItself, Bool.and_eq_true, bne_iff_ne] at stands
      obtain ⟨⟨⟨noQuote, noBackslash⟩, noReturn⟩, _⟩ := stands
      simp [scan, step, noQuote, noBackslash, noReturn,
        inductionHypothesis (written ++ [character]) further]

/-- A literal goes on through the written form of a character. -/
theorem scan_isEscaped
    (written : List Char)
    {parts : List Char}
    (shape : Text.IsEscaped parts) :
    scan (.literal written) parts = some ([], .literal (written ++ parts)) := by
  cases shape with
  | short letter sameLine =>
      simp [scan, step]
  | code digits plain =>
      have continued := scan_plainParts (written ++ ['\\', 'u']) plain
      simp [scan, step, continued]
  | itself character plain =>
      exact scan_plainParts written (by simpa using plain)

theorem scan_escapedText
    (written text : List Char) :
    scan (.literal written) (text.flatMap Text.escaped) =
      some ([], .literal (written ++ text.flatMap Text.escaped)) := by
  induction text generalizing written with
  | nil =>
      simp [scan]
  | cons character text inductionHypothesis =>
      rw [List.flatMap_cons, scan_append,
        scan_isEscaped written (Text.isEscaped_escaped character)]
      simp [inductionHypothesis]

/-- Quoted text is one literal. -/
theorem completes_quoted
    (text : List Char) :
    Completes (Text.quoted text) [.literal (text.flatMap Text.escaped)] := by
  have opened : begin '\"' = some ([], .literal []) := rfl
  simp [Completes, Text.quoted, scan, step, opened, scan_append, scan_escapedText, prepend]

/-! ## Comments -/

theorem scan_commentParts
    {parts : List Char}
    (sameLine : Text.OnOneLine parts) :
    scan .comment parts = some ([], .comment) := by
  induction parts with
  | nil =>
      rfl
  | cons character parts inductionHypothesis =>
      obtain ⟨⟨noNewline, noReturn⟩, further⟩ := List.forall_mem_cons.mp sameLine
      simp [scan, step, noNewline, noReturn, inductionHypothesis further]

/-- A comment leaves nothing of its line. -/
theorem completes_comment
    {parts : List Char}
    (sameLine : Text.OnOneLine parts) :
    Completes ('/' :: '/' :: (parts ++ ['\n'])) [] := by
  have begun : begin '/' = some ([], .slash) := rfl
  simp [Completes, scan, step, begun, scan_append, scan_commentParts sameLine]

end Phrasebook.Generated
