import Phrasebook.Code.Layout
import Phrasebook.Proofs.Generated.Literal

namespace Phrasebook.Code

open Generated

/-!
# Lexemes of laid out code

Lines have the lexemes of their texts, one line after another. Indentation adds none, and the end
of a line ends whatever lexeme stands before it.
-/

/-- Lines have certain lexemes, however far they are indented and whatever follows them. -/
def SpellsLines
    (lines : List CodeLine)
    (lexemes : List Lexeme) :
    Prop :=
  ∀ level, Completes (layoutFrom level lines).toList lexemes

/-- The number of blocks around what follows some lines. -/
def levelPast
    (level : Nat)
    (lines : List CodeLine) :
    Nat :=
  lines.foldl CodeLine.levelAfter level

theorem layoutFrom_append
    (level : Nat)
    (first second : List CodeLine) :
    layoutFrom level (first ++ second) =
      layoutFrom level first ++ layoutFrom (levelPast level first) second := by
  induction first generalizing level with
  | nil =>
      simp [layoutFrom, levelPast]
  | cons line lines inductionHypothesis =>
      rw [List.cons_append, layoutFrom, inductionHypothesis, layoutFrom, String.append_assoc]
      rfl

theorem completes_spaces
    (count : Nat) :
    Completes (List.replicate count ' ') [] := by
  induction count with
  | zero =>
      exact .nil
  | succ count inductionHypothesis =>
      have space : Completes [' '] [] := rfl
      exact space.append inductionHypothesis

theorem completes_newline :
    Completes ['\n'] [] :=
  rfl

/-- An indented line has the lexemes of its text. -/
theorem completes_indented
    {text : String}
    {lexemes : List Lexeme}
    (level : Nat)
    (spelled : Spells text.toList lexemes) :
    Completes (indented level text).toList lexemes := by
  unfold indented
  split
  · rename_i isEmpty
    have empty : text = "" := String.isEmpty_iff.mp isEmpty
    subst empty
    cases spelled
    exact completes_newline
  · have ended : Completes (text.toList ++ '\n' :: []) (lexemes ++ []) :=
      spelled.completes (by decide) completes_newline
    simpa [indentation, String.toList_append] using
      (completes_spaces (4 * level)).append ended

/-- A line that is a comment. -/
structure IsComment
    (text : String) :
    Prop where
  starts : ['/', '/'] <+: text.toList
  sameLine : Text.OnOneLine text.toList

theorem IsComment.append
    {text further : String}
    (comment : IsComment text)
    (sameLine : Text.OnOneLine further.toList) :
    IsComment (text ++ further) := by
  refine ⟨?_, ?_⟩
  · rw [String.toList_append]
    exact comment.starts.trans (List.prefix_append _ _)
  · rw [String.toList_append]
    exact comment.sameLine.append sameLine

/-- An indented comment has no lexemes. -/
theorem completes_indented_comment
    {text : String}
    (level : Nat)
    (comment : IsComment text) :
    Completes (indented level text).toList [] := by
  obtain ⟨⟨rest, shape⟩, sameLine⟩ := comment
  rw [← shape] at sameLine
  have restOn : Text.OnOneLine rest := fun character member =>
    sameLine character (List.mem_append_right _ member)
  have notEmpty : text.isEmpty = false := by
    rw [← Bool.not_eq_true, String.isEmpty_iff]
    rintro rfl
    cases shape
  have line :
      (indented level text).toList =
        List.replicate (4 * level) ' ' ++ '/' :: '/' :: (rest ++ ['\n']) := by
    simp [indented, notEmpty, indentation, String.toList_append, ← shape]
  rw [line]
  exact (completes_spaces (4 * level)).append (completes_comment restOn)

namespace SpellsLines

theorem nil :
    SpellsLines [] [] := by
  intro level
  exact .nil

theorem append
    {first second : List CodeLine}
    {firstLexemes secondLexemes : List Lexeme}
    (firstSpelled : SpellsLines first firstLexemes)
    (secondSpelled : SpellsLines second secondLexemes) :
    SpellsLines (first ++ second) (firstLexemes ++ secondLexemes) := by
  intro level
  rw [layoutFrom_append, String.toList_append]
  exact (firstSpelled level).append (secondSpelled _)

/-- A line stands before others. -/
theorem cons
    {line : CodeLine}
    {lines : List CodeLine}
    {lineLexemes lexemes : List Lexeme}
    (lineSpelled : Spells line.text.toList lineLexemes)
    (spelled : SpellsLines lines lexemes) :
    SpellsLines (line :: lines) (lineLexemes ++ lexemes) := by
  intro level
  rw [layoutFrom, String.toList_append]
  exact (completes_indented _ lineSpelled).append (spelled _)

theorem comment
    {text : String}
    {lines : List CodeLine}
    {lexemes : List Lexeme}
    (isComment : IsComment text)
    (spelled : SpellsLines lines lexemes) :
    SpellsLines (.plain text :: lines) lexemes := by
  intro level
  rw [layoutFrom, String.toList_append]
  exact (completes_indented_comment level isComment).append (spelled _)

theorem blank
    {lines : List CodeLine}
    {lexemes : List Lexeme}
    (spelled : SpellsLines lines lexemes) :
    SpellsLines (.blank :: lines) lexemes := by
  have noLexemes : Spells CodeLine.blank.text.toList [] := rfl
  exact spelled.cons noLexemes

theorem singleton
    {line : CodeLine}
    {lexemes : List Lexeme}
    (spelled : Spells line.text.toList lexemes) :
    SpellsLines [line] lexemes := by
  have alone := nil.cons spelled
  rwa [List.append_nil] at alone

/-- A block has the lexemes of its inside between those of its first and its last line. -/
theorem block
    {opening closing : String}
    {lines : List CodeLine}
    {openingLexemes lexemes closingLexemes : List Lexeme}
    (openingSpelled : Spells opening.toList openingLexemes)
    (spelled : SpellsLines lines lexemes)
    (closingSpelled : Spells closing.toList closingLexemes) :
    SpellsLines (Code.block opening lines closing)
      (openingLexemes ++ (lexemes ++ closingLexemes)) := by
  have last : SpellsLines [.closing closing] closingLexemes := singleton closingSpelled
  have first : Spells (CodeLine.opening opening).text.toList openingLexemes := openingSpelled
  exact (spelled.append last).cons first

/-- A block between braces ends with the lexeme of the closing one. -/
theorem braced
    {opening : String}
    {lines : List CodeLine}
    {openingLexemes lexemes : List Lexeme}
    (openingSpelled : Spells opening.toList openingLexemes)
    (spelled : SpellsLines lines lexemes) :
    SpellsLines (Code.block opening lines "\x7d")
      (openingLexemes ++ (lexemes ++ [.mark .closeBrace])) := by
  have closing : Spells "\x7d".toList [.mark .closeBrace] := by decide
  exact block openingSpelled spelled closing

theorem flatMap
    {α : Type}
    {lines : α → List CodeLine}
    {lexemes : α → List Lexeme}
    {list : List α}
    (spelled : ∀ element ∈ list, SpellsLines (lines element) (lexemes element)) :
    SpellsLines (list.flatMap lines) (list.flatMap lexemes) := by
  induction list with
  | nil =>
      exact nil
  | cons element rest inductionHypothesis =>
      rw [List.forall_mem_cons] at spelled
      exact spelled.1.append (inductionHypothesis spelled.2)

/-- The code of lines has their lexemes. -/
theorem spells_layout
    {lines : List CodeLine}
    {lexemes : List Lexeme}
    (spelled : SpellsLines lines lexemes) :
    Spells (layout lines).toList lexemes :=
  (spelled 0).spells

end SpellsLines

end Phrasebook.Code
