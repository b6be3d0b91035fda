import Phrasebook.Text.Quoted

namespace Phrasebook.Text

/-!
# What stands between quotation marks

Quoted text stays on one line, and a quotation mark or a backslash stands in it only as part of an
escape.
-/

/-- A text that does not end its line. -/
def OnOneLine
    (text : List Char) :
    Prop :=
  ∀ character ∈ text, character ≠ '\n' ∧ character ≠ '\r'

instance
    (text : List Char) :
    Decidable (OnOneLine text) :=
  List.decidableBAll (fun character => character ≠ '\n' ∧ character ≠ '\r') text

theorem OnOneLine.append
    {first second : List Char}
    (firstOn : OnOneLine first)
    (secondOn : OnOneLine second) :
    OnOneLine (first ++ second) := by
  intro character member
  rcases List.mem_append.mp member with inFirst | inSecond
  · exact firstOn character inFirst
  · exact secondOn character inSecond

/-- Whether a character stands for itself between quotation marks, on one line. -/
def standsForItself
    (character : Char) :
    Bool :=
  character != '\"' && character != '\\' && character != '\r' && character != '\n'

theorem exists_digitChar_of_mem_toDigits
    {base : Nat}
    (atLeastTwo : 1 < base)
    (number : Nat)
    {character : Char}
    (member : character ∈ Nat.toDigits base number) :
    ∃ digit, character = Nat.digitChar digit := by
  induction number using Nat.strongRecOn with
  | ind number inductionHypothesis =>
      rw [Nat.toDigits_eq_if atLeastTwo] at member
      split at member
      · rw [List.mem_singleton] at member
        exact ⟨number, member⟩
      · rename_i large
        have smaller : number / base < number :=
          Nat.div_lt_self (by omega) atLeastTwo
        rcases List.mem_append.mp member with earlier | last
        · exact inductionHypothesis (number / base) smaller earlier
        · exact ⟨number % base, List.mem_singleton.mp last⟩

theorem standsForItself_of_mem_hexadecimal
    {number : Nat}
    {character : Char}
    (member : character ∈ hexadecimal number) :
    standsForItself character := by
  obtain ⟨digit, rfl⟩ := exists_digitChar_of_mem_toDigits (by decide) number member
  have noQuote : digit.digitChar ≠ '\"' := Nat.digitChar_ne _ (by decide)
  have noBackslash : digit.digitChar ≠ '\\' := Nat.digitChar_ne _ (by decide)
  have noReturn : digit.digitChar ≠ '\r' := Nat.digitChar_ne _ (by decide)
  have noNewline : digit.digitChar ≠ '\n' := Nat.digitChar_ne _ (by decide)
  simp [standsForItself, noQuote, noBackslash, noReturn, noNewline]

/-- The written forms of a character: an escape of two characters, one with a code point, or the
character itself. -/
inductive IsEscaped :
    List Char →
    Prop where
  | short (letter : Char) (sameLine : letter ≠ '\r' ∧ letter ≠ '\n') :
      IsEscaped ['\\', letter]
  | code (digits : List Char) (plain : digits.all standsForItself) :
      IsEscaped ('\\' :: 'u' :: digits)
  | itself (character : Char) (plain : standsForItself character) :
      IsEscaped [character]

theorem isEscaped_escaped
    (character : Char) :
    IsEscaped (escaped character) := by
  unfold escaped
  split
  · exact .short '0' (by decide)
  split
  · exact .short 't' (by decide)
  split
  · exact .short 'r' (by decide)
  split
  · exact .short 'n' (by decide)
  split
  · exact .short '\\' (by decide)
  split
  · exact .short '\"' (by decide)
  split
  · refine .code ('\x7b' :: hexadecimal character.toNat ++ ['\x7d']) ?_
    rw [List.all_eq_true]
    intro part member
    simp only [List.cons_append, List.mem_cons, List.mem_append, List.not_mem_nil, or_false]
      at member
    rcases member with rfl | digit | rfl
    · decide
    · exact standsForItself_of_mem_hexadecimal digit
    · decide
  · rename_i _ _ noReturn noNewline noBackslash noQuote _
    exact .itself character (by simp [standsForItself, noReturn, noNewline, noBackslash, noQuote])

theorem IsEscaped.onOneLine
    {written : List Char}
    (shape : IsEscaped written) :
    OnOneLine written := by
  have plain :
      ∀ {part : Char}, standsForItself part → part ≠ '\n' ∧ part ≠ '\r' := by
    intro part stands
    simp only [standsForItself, Bool.and_eq_true, bne_iff_ne] at stands
    exact ⟨stands.2, stands.1.2⟩
  intro character member
  cases shape with
  | short letter sameLine =>
      simp only [List.mem_cons, List.not_mem_nil, or_false] at member
      rcases member with rfl | rfl
      · decide
      · exact sameLine.symm
  | code digits digitsPlain =>
      simp only [List.mem_cons] at member
      rcases member with rfl | rfl | digit
      · decide
      · decide
      · exact plain (List.all_eq_true.mp digitsPlain _ digit)
  | itself original stands =>
      rw [List.mem_singleton] at member
      exact member ▸ plain stands

/-- Quoted text stays on one line. -/
theorem onOneLine_quoted
    (text : List Char) :
    OnOneLine (quoted text) := by
  have inside : OnOneLine (text.flatMap escaped) := by
    intro character member
    obtain ⟨original, _, written⟩ := List.mem_flatMap.mp member
    exact (isEscaped_escaped original).onOneLine character written
  have opening : OnOneLine ['\"'] := by decide
  have closing : OnOneLine ['\"'] := by decide
  exact (opening.append inside).append closing

end Phrasebook.Text
