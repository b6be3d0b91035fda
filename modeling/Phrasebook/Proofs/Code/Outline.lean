import Phrasebook.Proofs.Code.Blocks
import Phrasebook.Proofs.Text.Lines

namespace Phrasebook.Code

/-!
# Outlines of code

Lines that close just the blocks that they open are those of an outline, in which blocks stand
within blocks. None of them closes a block that is not open, and each is written behind four spaces
for every block of the outline that it stands in.
-/

/-! ## No block is closed that is not open -/

/-- One more block around a line is one more behind it as well, or was missing for the line to
close. -/
theorem levelAfter_succ
    (level : Nat)
    (line : CodeLine) :
    line.levelAfter (level + 1) = line.levelAfter level + 1 ∨
      line.levelAfter (level + 1) = line.levelAfter level := by
  cases line with
  | plain text =>
      exact .inl rfl
  | opening text =>
      exact .inl rfl
  | closing text =>
      cases level with
      | zero =>
          exact .inr rfl
      | succ level =>
          exact .inl rfl

theorem levelPast_succ
    (level : Nat)
    (lines : List CodeLine) :
    levelPast (level + 1) lines = levelPast level lines + 1 ∨
      levelPast (level + 1) lines = levelPast level lines := by
  induction lines generalizing level with
  | nil =>
      exact .inl rfl
  | cons line lines inductionHypothesis =>
      have behind (level : Nat) :
          levelPast level (line :: lines) = levelPast (line.levelAfter level) lines :=
        rfl
      rw [behind, behind]
      rcases levelAfter_succ level line with one | none
      · rw [one]
        exact inductionHypothesis _
      · rw [none]
        exact .inr rfl

/-- Balanced lines close a block only where one is open. -/
theorem IsBalanced.isOpen
    {before after : List CodeLine}
    {text : String}
    (balanced : IsBalanced (before ++ .closing text :: after)) :
    0 < levelPast 0 before := by
  refine Nat.pos_of_ne_zero fun noneOpen => ?_
  have behind (level : Nat) :
      levelPast level (before ++ .closing text :: after) =
        levelPast (levelPast level before - 1) after :=
    levelPast_append level before _
  -- A block around these lines would be closed in place of the missing one.
  have same : levelPast 0 before - 1 = levelPast 1 before - 1 := by
    rcases levelPast_succ 0 before with one | none
    · rw [← Nat.zero_add 1, one, noneOpen]
    · rw [← Nat.zero_add 1, none]
  have outer := balanced 0
  have inner := balanced 1
  rw [behind] at outer inner
  rw [same, inner] at outer
  cases outer

/-! ## Outlines -/

/-- Code as it is nested: lines one after another, and blocks, each with the code inside between the
line that opens it and the line that closes it. -/
inductive Outline where
  | nothing
  | line (text : String) (rest : Outline)
  | block (opening : String) (inside : Outline) (closing : String) (rest : Outline)
  deriving Repr

namespace Outline

/-- The lines of an outline with what they do to the blocks around them. -/
def lines :
    Outline →
    List CodeLine
  | nothing => []
  | line text rest => .plain text :: rest.lines
  | block opening inside closing rest => Code.block opening inside.lines closing ++ rest.lines

/-- Whether lines are those of an outline, or of one more than `count` outlines with lines between
them that close blocks around. -/
def AreOutlined :
    Nat →
    List CodeLine →
    Prop
  | 0, lines => ∃ outline : Outline, outline.lines = lines
  | count + 1, lines =>
      ∃ (outline : Outline) (closing : String) (rest : List CodeLine),
        lines = outline.lines ++ .closing closing :: rest ∧ AreOutlined count rest

theorem areOutlined_plain
    {count : Nat}
    {lines : List CodeLine}
    (text : String)
    (outlined : AreOutlined count lines) :
    AreOutlined count (.plain text :: lines) := by
  cases count with
  | zero =>
      obtain ⟨outline, rfl⟩ := outlined
      exact ⟨.line text outline, rfl⟩
  | succ count =>
      obtain ⟨outline, closing, rest, rfl, further⟩ := outlined
      exact ⟨.line text outline, closing, rest, rfl, further⟩

theorem areOutlined_block
    {count : Nat}
    {rest : List CodeLine}
    (opening : String)
    (inside : Outline)
    (closing : String)
    (outlined : AreOutlined count rest) :
    AreOutlined count (Code.block opening inside.lines closing ++ rest) := by
  cases count with
  | zero =>
      obtain ⟨outline, rfl⟩ := outlined
      exact ⟨.block opening inside closing outline, rfl⟩
  | succ count =>
      obtain ⟨outline, last, rest, rfl, further⟩ := outlined
      refine ⟨.block opening inside closing outline, last, rest, ?_, further⟩
      rw [lines, List.append_assoc]

/-- Lines that close a number of blocks beyond those that they open are cut into outlines by the
lines that close them. -/
theorem areOutlined_of_levelPast
    {count : Nat}
    {lines : List CodeLine}
    (closes : ∀ level, levelPast (level + count) lines = level) :
    AreOutlined count lines := by
  induction lines generalizing count with
  | nil =>
      have allClosed : count = 0 := by simpa [levelPast] using closes 0
      subst allClosed
      exact ⟨.nothing, rfl⟩
  | cons first lines inductionHypothesis =>
      cases first with
      | plain text =>
          exact areOutlined_plain text (inductionHypothesis closes)
      | opening text =>
          have outlined : AreOutlined (count + 1) lines := inductionHypothesis closes
          obtain ⟨inside, closing, rest, rfl, further⟩ := outlined
          simpa [Code.block] using areOutlined_block text inside closing further
      | closing text =>
          cases count with
          | zero =>
              -- Nothing is left to be closed.
              have same : levelPast 0 lines = 0 := closes 0
              have other : levelPast 0 lines = 1 := closes 1
              rw [same] at other
              cases other
          | succ count =>
              exact ⟨.nothing, text, lines, rfl, inductionHypothesis closes⟩

/-- Balanced lines are those of an outline. -/
theorem exists_of_isBalanced
    {lines : List CodeLine}
    (balanced : IsBalanced lines) :
    ∃ outline : Outline, outline.lines = lines := by
  have outlined : AreOutlined 0 lines := areOutlined_of_levelPast balanced
  exact outlined

theorem isBalanced_lines
    (outline : Outline) :
    IsBalanced outline.lines := by
  induction outline with
  | nothing =>
      exact .nil
  | line text rest restHypothesis =>
      exact restHypothesis.plain text
  | block opening inside closing rest insideHypothesis restHypothesis =>
      exact (insideHypothesis.block opening closing).append restHypothesis

end Outline

/-! ## Written outlines -/

/-- A line with the number of blocks that it stands in. -/
structure PlacedLine where
  depth : Nat
  text : String
  deriving Repr, DecidableEq

/-- A line as it is written: nothing where it has no text, and else four spaces for each block that
it stands in and its text. -/
def PlacedLine.written
    (line : PlacedLine) :
    List Char :=
  if line.text = "" then
    []
  else
    List.replicate (4 * line.depth) ' ' ++ line.text.toList

/-- The lines of an outline that stands in a number of blocks. Only the inside of a block stands in
it: the line that closes it stands where the line that opens it does. -/
def Outline.placed
    (depth : Nat) :
    Outline →
    List PlacedLine
  | .nothing => []
  | .line text rest => ⟨depth, text⟩ :: rest.placed depth
  | .block opening inside closing rest =>
      ⟨depth, opening⟩ :: inside.placed (depth + 1) ++ ⟨depth, closing⟩ :: rest.placed depth

theorem Outline.map_text_placed
    (depth : Nat)
    (outline : Outline) :
    (outline.placed depth).map PlacedLine.text = outline.lines.map CodeLine.text := by
  induction outline generalizing depth with
  | nothing =>
      rfl
  | line text rest restHypothesis =>
      rw [placed, lines, List.map_cons, List.map_cons, restHypothesis]
      rfl
  | block opening inside closing rest insideHypothesis restHypothesis =>
      simp [placed, lines, Code.block, CodeLine.text, insideHypothesis, restHypothesis]

/-- The text of written lines. -/
def writtenText
    (lines : List PlacedLine) :
    List Char :=
  lines.flatMap fun line => line.written ++ ['\n']

theorem toList_indented
    (depth : Nat)
    (text : String) :
    (indented depth text).toList = (PlacedLine.mk depth text).written ++ ['\n'] := by
  unfold indented PlacedLine.written
  by_cases isEmpty : text = ""
  · subst isEmpty
    simp
  · rw [if_neg (by simpa using isEmpty), if_neg isEmpty]
    simp [indentation]

/-- The code of a block is that of its inside, one level further in, between its first and its last
line. -/
theorem layoutFrom_block
    {lines : List CodeLine}
    (level : Nat)
    (opening closing : String)
    (balanced : IsBalanced lines) :
    layoutFrom level (block opening lines closing) =
      indented level opening ++ layoutFrom (level + 1) lines ++ indented level closing := by
  have last : layoutFrom (level + 1) [.closing closing] = indented level closing := by
    simp [layoutFrom, CodeLine.levelAt, CodeLine.text]
  rw [block, List.cons_append, layoutFrom, CodeLine.levelAfter, layoutFrom_append, balanced, last,
    String.append_assoc]
  rfl

/-- The code of an outline is its lines as they are written. -/
theorem toList_layoutFrom_lines
    (depth : Nat)
    (outline : Outline) :
    (layoutFrom depth outline.lines).toList = writtenText (outline.placed depth) := by
  induction outline generalizing depth with
  | nothing =>
      rfl
  | line text rest restHypothesis =>
      have first : layoutFrom depth (.plain text :: rest.lines) =
          indented depth text ++ layoutFrom depth rest.lines :=
        rfl
      rw [Outline.lines, first, String.toList_append, toList_indented, restHypothesis]
      rfl
  | block opening inside closing rest insideHypothesis restHypothesis =>
      have behind : levelPast depth (block opening inside.lines closing) = depth :=
        inside.isBalanced_lines.block opening closing depth
      rw [Outline.lines, layoutFrom_append, behind, layoutFrom_block _ _ _ inside.isBalanced_lines]
      simp [toList_indented, insideHypothesis, restHypothesis, writtenText, Outline.placed]

/-! ## Written lines in a text -/

/-- Texts that stay on one line each are the lines of the code, each as it is written. -/
theorem physicalLines_writtenText
    {lines : List PlacedLine}
    (onOneLine : ∀ line ∈ lines, Text.OnOneLine line.text.toList) :
    Text.physicalLines (writtenText lines) = lines.map PlacedLine.written := by
  induction lines with
  | nil =>
      rfl
  | cons line lines inductionHypothesis =>
      rw [List.forall_mem_cons] at onOneLine
      have written : Text.IsOneLine line.written := by
        unfold PlacedLine.written
        split
        · exact fun _ member => absurd member List.not_mem_nil
        · refine Text.isOneLine_append (fun character member => ?_) onOneLine.1
          rw [List.eq_of_mem_replicate member]
          decide
      rw [writtenText, List.flatMap_cons, Text.physicalLines_of_isFeed written .feed, List.map_cons]
      exact congrArg _ (inductionHypothesis onOneLine.2)

/-- A text that does not start with a space is written behind four spaces for each block. -/
theorem length_takeWhile_written
    {line : PlacedLine}
    (lead : line.text.toList.head?.any (· != ' ')) :
    (line.written.takeWhile (· == ' ')).length = 4 * line.depth := by
  have spaces : ∀ character ∈ List.replicate (4 * line.depth) ' ', (character == ' ') = true :=
    fun character member => beq_iff_eq.mpr (List.eq_of_mem_replicate member)
  have lacks : Text.LacksLead (· == ' ') line.text.toList := by
    intro character rest shape
    simpa [shape] using lead
  have notEmpty : line.text ≠ "" := by
    intro isEmpty
    simp [isEmpty] at lead
  rw [PlacedLine.written, if_neg notEmpty, (Text.takeWhile_of_lacksLead spaces lacks).1,
    List.length_replicate]

end Phrasebook.Code
