import Mathlib
import Phrasebook.Text.Lines

namespace Phrasebook.Text

/-!
# Leading characters and lines

What a text starts with decides how far a leading run of characters goes, and the first line feed
of a text ends its first line.
-/

/-- Whether a text starts with no character that meets a condition. -/
def LacksLead
    (condition : Char → Bool)
    (text : List Char) :
    Prop :=
  ∀ character rest, text = character :: rest → condition character = false

theorem lacksLead_cons
    {condition : Char → Bool}
    {character : Char}
    (lacks : condition character = false)
    (text : List Char) :
    LacksLead condition (character :: text) := by
  rintro _ _ ⟨⟩
  exact lacks

theorem lacksLead_of_append
    {condition : Char → Bool}
    {first second : List Char}
    (lacks : LacksLead condition (first ++ second)) :
    LacksLead condition first := by
  rintro character rest rfl
  exact lacks character _ rfl

theorem takeWhile_of_lacksLead
    {condition : Char → Bool}
    {taken text : List Char}
    (all : ∀ character ∈ taken, condition character)
    (lacks : LacksLead condition text) :
    (taken ++ text).takeWhile condition = taken ∧ (taken ++ text).dropWhile condition = text := by
  rw [List.takeWhile_append_of_pos all, List.dropWhile_append_of_pos all]
  cases text with
  | nil =>
      simp
  | cons character rest =>
      simp [lacks character rest rfl]

/-! ## Lines -/

/-- Whether some characters end a line. -/
inductive IsFeed :
    List Char →
    Prop where
  | feed :
      IsFeed ['\n']
  | returnFeed :
      IsFeed ['\r', '\n']

/-- Whether no character of a text belongs to the end of a line. -/
def IsOneLine
    (text : List Char) :
    Prop :=
  ∀ character ∈ text, character ≠ '\n' ∧ character ≠ '\r'

theorem isOneLine_append
    {first second : List Char}
    (firstLine : IsOneLine first)
    (secondLine : IsOneLine second) :
    IsOneLine (first ++ second) :=
  List.forall_mem_append.mpr ⟨firstLine, secondLine⟩

theorem dropFinalReturn_of_isOneLine
    {line : List Char}
    (isOneLine : IsOneLine line) :
    dropFinalReturn line = line := by
  rw [dropFinalReturn, if_neg]
  intro isFinal
  exact (isOneLine '\r' (List.mem_of_getLast? isFinal)).2 rfl

theorem endedLines_append
    (first : List (List Char))
    {second : List (List Char)}
    (notEmpty : second ≠ []) :
    endedLines (first ++ second) = first.map dropFinalReturn ++ endedLines second := by
  induction first with
  | nil =>
      rfl
  | cons line first inductionHypothesis =>
      rw [List.cons_append, List.map_cons, List.cons_append, ← inductionHypothesis]
      cases pieces : first ++ second with
      | nil =>
          exact absurd (List.append_eq_nil_iff.mp pieces).2 notEmpty
      | cons next rest =>
          rfl

/-- A line feed ends the lines before it, whatever follows. -/
theorem physicalLines_feed
    (front text : List Char) :
    physicalLines (front ++ '\n' :: text) =
      (front.splitOnP (· == '\n')).map dropFinalReturn ++ physicalLines text := by
  rw [physicalLines, List.splitOnP_append_cons front text rfl,
    endedLines_append _ (List.splitOnP_ne_nil _ _)]
  rfl

/-- The lines of a text that ends with a line feed can be read apart from those that follow. -/
theorem physicalLines_append
    {text : List Char}
    (ended : text.getLast? = some '\n')
    (further : List Char) :
    physicalLines (text ++ further) = physicalLines text ++ physicalLines further := by
  obtain ⟨front, rfl⟩ := List.getLast?_eq_some_iff.mp ended
  have nothing : physicalLines [] = [] := rfl
  rw [List.append_assoc, List.singleton_append, physicalLines_feed, physicalLines_feed, nothing,
    List.append_nil]

theorem physicalLines_cons
    {line : List Char}
    (noFeed : ∀ character ∈ line, character ≠ '\n')
    (text : List Char) :
    physicalLines (line ++ '\n' :: text) = dropFinalReturn line :: physicalLines text := by
  have piece : line.splitOnP (· == '\n') = [line] :=
    List.splitOnP_eq_singleton fun character isMember => beq_eq_false_iff_ne.mpr
      (noFeed character isMember)
  rw [physicalLines_feed, piece]
  rfl

/-- A line and its ending are one physical line. -/
theorem physicalLines_of_isFeed
    {line feed : List Char}
    (isOneLine : IsOneLine line)
    (isFeed : IsFeed feed)
    (text : List Char) :
    physicalLines (line ++ feed ++ text) = line :: physicalLines text := by
  cases isFeed with
  | feed =>
      rw [List.append_assoc, List.singleton_append,
        physicalLines_cons (fun character isMember => (isOneLine character isMember).1),
        dropFinalReturn_of_isOneLine isOneLine]
  | returnFeed =>
      have noFeed : ∀ character ∈ line ++ ['\r'], character ≠ '\n' := by
        refine List.forall_mem_append.mpr
          ⟨fun character isMember => (isOneLine character isMember).1, ?_⟩
        simp
      have shape : line ++ ['\r', '\n'] ++ text = (line ++ ['\r']) ++ '\n' :: text := by simp
      rw [shape, physicalLines_cons noFeed]
      simp [dropFinalReturn]

/-- What is left of a text without a line feed is its last line, unless it is empty. -/
theorem physicalLines_last
    {line : List Char}
    (noFeed : ∀ character ∈ line, character ≠ '\n')
    (notEmpty : line ≠ []) :
    physicalLines line = [line] := by
  have piece : line.splitOnP (· == '\n') = [line] :=
    List.splitOnP_eq_singleton fun character isMember => beq_eq_false_iff_ne.mpr
      (noFeed character isMember)
  rw [physicalLines, piece, endedLines, if_neg]
  simpa using notEmpty

end Phrasebook.Text
