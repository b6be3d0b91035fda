import Mathlib
import Phrasebook.Proofs.Properties.Declarations
import Phrasebook.Proofs.Properties.Notation

namespace Phrasebook.Properties

/-!
# Layouts of properties files

The texts that write a list of declarations: with blanks before keys, comments and blank lines
between declarations, either kind of separator, escapes instead of characters, and breaks within
declarations. The declarations are read back from each of them, with the lines they start on.
-/

/-- Whether a text is all blanks. -/
def IsBlanks
    (text : List Char) :
    Prop :=
  ∀ character ∈ text, isBlank character

/-- Whether a character leads a comment. -/
def isCommentMark
    (character : Char) :
    Bool :=
  character == '#' || character == '!'

/-! ## Declarations -/

/-- Whether a text separates a key from a written value, which is not to start with what would
belong to the separator. -/
inductive Separates :
    List Char →
    List Char →
    Prop where
  | sign
      {before after value : List Char}
      {sign : Char} :
      IsBlanks before →
      isEquals sign →
      IsBlanks after →
      Text.LacksLead isBlank value →
      Separates (before ++ sign :: after) value
  | blanks
      {blanks value : List Char} :
      IsBlanks blanks →
      blanks ≠ [] →
      Text.LacksLead isBlank value →
      Text.LacksLead isEquals value →
      Separates blanks value

/-- Whether some pieces write a declaration without any breaks. Its key is not to look like a
comment. -/
inductive WritesDeclaration :
    String →
    List String →
    List (List Char) →
    Prop where
  | pieces
      {key : String}
      {variants : List String}
      {keyPieces valuePieces : List (List Char)}
      {separator : List Char} :
      Writes isRawInKey key.toList keyPieces →
      Text.LacksLead isCommentMark keyPieces.flatten →
      Separates separator valuePieces.flatten →
      WritesVariants variants valuePieces →
      WritesDeclaration key variants (keyPieces ++ separator.map ([·]) ++ valuePieces)

theorem dropBlanks_append
    {blanks text : List Char}
    (isBlanks : IsBlanks blanks)
    (lacks : Text.LacksLead isBlank text) :
    dropBlanks (blanks ++ text) = text :=
  (Text.takeWhile_of_lacksLead isBlanks lacks).2

theorem dropEquals_of_lacksLead
    {text : List Char}
    (lacks : Text.LacksLead isEquals text) :
    dropEquals text = text := by
  cases text with
  | nil =>
      rfl
  | cons character text =>
      rw [dropEquals, lacks character text rfl]
      rfl

theorem isBlank_of_isEquals
    {character : Char}
    (isSign : isEquals character) :
    isBlank character = false := by
  rw [isEquals, Bool.or_eq_true, beq_iff_eq, beq_iff_eq] at isSign
  rcases isSign with rfl | rfl <;> rfl

theorem isEquals_of_isBlank
    {character : Char}
    (isBlank : Properties.isBlank character) :
    isEquals character = false := by
  rw [Properties.isBlank, Bool.or_eq_true, Bool.or_eq_true, beq_iff_eq, beq_iff_eq,
    beq_iff_eq] at isBlank
  rcases isBlank with (rfl | rfl) | rfl <;> rfl

namespace Separates

variable
  {separator value : List Char}

/-- A separator starts with a sign or a blank. -/
theorem shape
    (separates : Separates separator value) :
    ∃ lead rest, separator = lead :: rest ∧ (isEquals lead || isBlank lead) := by
  cases separates with
  | @sign before _ _ sign beforeBlanks isSign _ _ =>
      cases before with
      | nil =>
          exact ⟨sign, _, rfl, by simp [isSign]⟩
      | cons blank before =>
          exact ⟨blank, _, rfl, by simp [beforeBlanks blank List.mem_cons_self]⟩
  | @blanks _ _ isBlanks notEmpty _ _ =>
      obtain ⟨blank, rest, rfl⟩ := List.exists_cons_of_ne_nil notEmpty
      exact ⟨blank, rest, rfl, by simp [isBlanks blank List.mem_cons_self]⟩

/-- A key ends where its separator starts. -/
theorem splitKey
    (separates : Separates separator value)
    (line : List Char) :
    Properties.splitKey false (separator ++ line) = ([], separator ++ line) := by
  obtain ⟨lead, rest, rfl, isLead⟩ := separates.shape
  rw [List.cons_append, Properties.splitKey]
  simp [isLead]

/-- What stands after a separator is the value. -/
theorem valueAfterKey
    (separates : Separates separator value) :
    Properties.valueAfterKey (separator ++ value) = value := by
  cases separates with
  | @sign before after _ sign beforeBlanks isSign afterBlanks lacks =>
      cases before with
      | nil =>
          rw [List.nil_append, List.cons_append, Properties.valueAfterKey, if_pos isSign,
            dropBlanks_append afterBlanks lacks]
      | cons blank before =>
          rw [IsBlanks, List.forall_mem_cons] at beforeBlanks
          have noBlank := Text.lacksLead_cons (isBlank_of_isEquals isSign) (after ++ value)
          rw [List.cons_append, List.cons_append, Properties.valueAfterKey,
            isEquals_of_isBlank beforeBlanks.1, if_neg Bool.false_ne_true, List.append_assoc,
            List.cons_append, dropBlanks_append beforeBlanks.2 noBlank, dropEquals,
            if_pos isSign, dropBlanks_append afterBlanks lacks]
  | blanks isBlanks notEmpty lacksBlank lacksEquals =>
      obtain ⟨blank, rest, rfl⟩ := List.exists_cons_of_ne_nil notEmpty
      rw [IsBlanks, List.forall_mem_cons] at isBlanks
      have noBlanks : IsBlanks [] := List.forall_mem_nil _
      rw [List.cons_append, Properties.valueAfterKey, isEquals_of_isBlank isBlanks.1,
        if_neg Bool.false_ne_true, dropBlanks_append isBlanks.2 lacksBlank,
        dropEquals_of_lacksLead lacksEquals]
      exact dropBlanks_append noBlanks lacksBlank

/-- A separator consists of characters that are written raw. -/
theorem isRaw
    (separates : Separates separator value) :
    ∀ character ∈ separator, Properties.isRaw character := by
  have ofBlank : ∀ {text}, IsBlanks text → ∀ blank ∈ text, Properties.isRaw blank := by
    intro text isBlanks blank isMember
    have isBlank := isBlanks blank isMember
    rw [Properties.isBlank, Bool.or_eq_true, Bool.or_eq_true, beq_iff_eq, beq_iff_eq,
      beq_iff_eq] at isBlank
    rcases isBlank with (rfl | rfl) | rfl <;> rfl
  cases separates with
  | sign beforeBlanks isSign afterBlanks _ =>
      refine List.forall_mem_append.mpr
        ⟨ofBlank beforeBlanks, List.forall_mem_cons.mpr ⟨?_, ofBlank afterBlanks⟩⟩
      rw [isEquals, Bool.or_eq_true, beq_iff_eq, beq_iff_eq] at isSign
      rcases isSign with rfl | rfl <;> rfl
  | blanks isBlanks _ _ _ =>
      exact ofBlank isBlanks

end Separates

theorem flatten_singletons
    (text : List Char) :
    (text.map ([·])).flatten = text := by
  rw [← List.flatMap_def, List.flatMap_singleton']

namespace WritesDeclaration

variable
  {key : String}
  {variants : List String}
  {pieces : List (List Char)}

/-- A written declaration declares its key with its variants. -/
theorem declaration
    (writes : WritesDeclaration key variants pieces)
    (named : key ≠ "")
    (number : Nat) :
    Properties.declaration ⟨number, pieces.flatten⟩ = .ok ⟨key, variants, number⟩ := by
  cases writes with
  | @pieces keyPieces valuePieces separator isKey _ separates isValue =>
      have split :
          keyAndValue (keyPieces ++ separator.map ([·]) ++ valuePieces).flatten =
            (keyPieces.flatten, valuePieces.flatten) := by
        rw [List.flatten_append, List.flatten_append, flatten_singletons, List.append_assoc,
          keyAndValue, splitKey_append isKey.isClosed_key, separates.splitKey, List.append_nil]
        simp only [separates.valueAfterKey]
      have notEmpty : ¬key.isEmpty := by simpa using named
      rw [Properties.declaration]
      simp only [split, isKey.decodeKey, isValue.decodeVariants]
      rw [if_neg notEmpty]

theorem isClosed
    (writes : WritesDeclaration key variants pieces) :
    ∀ piece ∈ pieces, IsClosed isRaw piece := by
  cases writes with
  | pieces isKey _ separates isValue =>
      refine List.forall_mem_append.mpr ⟨List.forall_mem_append.mpr ⟨?_, ?_⟩, isValue.isClosed⟩
      · exact isKey.isClosed fun _ => isRaw_of_isRawInKey
      · exact List.forall_mem_map.mpr fun character isMember =>
          .plain (separates.isRaw character isMember) .nil

/-- A written declaration starts like its key: with no blank and no mark of a comment. -/
theorem starts
    (writes : WritesDeclaration key variants pieces)
    (named : key ≠ "") :
    ∃ lead rest,
      pieces.flatten = lead :: rest ∧ isBlank lead = false ∧ isCommentMark lead = false := by
  cases writes with
  | @pieces keyPieces valuePieces separator isKey lacks _ _ =>
      obtain ⟨lead, rest, shape, noBlank⟩ := isKey.starts (by simpa using named)
      refine ⟨lead, rest ++ (separator.map ([·]) ++ valuePieces).flatten, ?_, noBlank,
        lacks lead rest shape⟩
      rw [List.append_assoc, List.flatten_append, shape, List.cons_append]

end WritesDeclaration

/-! ## Breaks -/

/-- Whether a text is some pieces with any breaks between them: a backslash, the end of a line and
blanks, and after them no further blank. -/
inductive IsBroken :
    List (List Char) →
    List Char →
    Prop where
  | whole
      (pieces : List (List Char)) :
      IsBroken pieces pieces.flatten
  | broken
      (first : List (List Char))
      {rest : List (List Char)}
      {feed blanks text : List Char} :
      Text.IsFeed feed →
      IsBlanks blanks →
      Text.LacksLead isBlank text →
      IsBroken rest text →
      IsBroken (first ++ rest) (first.flatten ++ ['\\'] ++ feed ++ (blanks ++ text))

/-- How a line may end before the rest of a text: the last line needs no ending. -/
inductive EndsLine :
    List Char →
    List Char →
    Prop where
  | feed
      {ending : List Char}
      (rest : List Char) :
      Text.IsFeed ending →
      EndsLine ending rest
  | final :
      EndsLine [] []

theorem isOneLine_flatten
    {pieces : List (List Char)}
    (closed : ∀ piece ∈ pieces, IsClosed isRaw piece) :
    Text.IsOneLine pieces.flatten := by
  intro character isMember
  obtain ⟨piece, isPiece, isCharacter⟩ := List.mem_flatten.mp isMember
  exact (closed piece isPiece).isOneLine character isCharacter

theorem isClosed_flatten
    {pieces : List (List Char)}
    (closed : ∀ piece ∈ pieces, IsClosed isRaw piece) :
    IsClosed isRaw pieces.flatten := by
  induction pieces with
  | nil =>
      exact .nil
  | cons piece pieces inductionHypothesis =>
      rw [List.forall_mem_cons] at closed
      exact closed.1.append (inductionHypothesis closed.2)

theorem isOneLine_of_isBlanks
    {blanks : List Char}
    (isBlanks : IsBlanks blanks) :
    Text.IsOneLine blanks := by
  intro blank isMember
  have isBlank := isBlanks blank isMember
  constructor <;> (rintro rfl; cases isBlank)

theorem count_feed_of_isOneLine
    {text : List Char}
    (isOneLine : Text.IsOneLine text) :
    text.count '\n' = 0 :=
  List.count_eq_zero.mpr fun isMember => (isOneLine '\n' isMember).1 rfl

/-- A line that is not to be skipped starts a logical line. -/
theorem logicalLinesFrom_none
    {number : Nat}
    {line : List Char}
    (starts : isSkipped (dropBlanks line) = false)
    (lines : List (List Char)) :
    logicalLinesFrom number none (line :: lines) =
      logicalLinesFrom number (some ⟨number, []⟩) (line :: lines) := by
  simp only [logicalLinesFrom, starts, List.nil_append, Bool.false_eq_true, if_false]

/-- The physical lines of the last line of a text, whether it is ended or not. -/
theorem physicalLines_of_endsLine
    {line ending rest : List Char}
    (isOneLine : Text.IsOneLine line)
    (ends : EndsLine ending rest) :
    (line = [] ∧ Text.physicalLines (line ++ ending ++ rest) = [] ∧ rest = []) ∨
      Text.physicalLines (line ++ ending ++ rest) = line :: Text.physicalLines rest := by
  cases ends with
  | feed rest isFeed =>
      exact .inr (Text.physicalLines_of_isFeed isOneLine isFeed rest)
  | final =>
      cases line with
      | nil =>
          exact .inl ⟨rfl, rfl, rfl⟩
      | cons character line =>
          refine .inr ?_
          rw [List.append_nil, List.append_nil]
          exact Text.physicalLines_last (fun other isMember => (isOneLine other isMember).1)
            (List.cons_ne_nil _ _)

/-- The logical line of a broken text is what it would be without the breaks. -/
theorem logicalLinesFrom_of_isBroken
    {number : Nat}
    {start : LogicalLine}
    {pieces : List (List Char)}
    {blanks text ending rest : List Char}
    (broken : IsBroken pieces text)
    (closed : ∀ piece ∈ pieces, IsClosed isRaw piece)
    (even : isContinued start.text = false)
    (isBlanks : IsBlanks blanks)
    (lacks : Text.LacksLead isBlank text)
    (ends : EndsLine ending rest) :
    logicalLinesFrom number (some start)
        (Text.physicalLines (blanks ++ text ++ ending ++ rest)) =
      ⟨start.number, start.text ++ pieces.flatten⟩ ::
        logicalLinesFrom (number + text.count '\n' + 1) none (Text.physicalLines rest) := by
  induction broken generalizing number start blanks with
  | whole pieces =>
      have isOneLine := isOneLine_flatten closed
      have stays := isContinued_append (isClosed_flatten closed) even
      rw [count_feed_of_isOneLine isOneLine]
      rcases physicalLines_of_endsLine
          (Text.isOneLine_append (isOneLine_of_isBlanks isBlanks) isOneLine) ends with
        ⟨isEmpty, noLines, rfl⟩ | isLine
      · rw [noLines, (List.append_eq_nil_iff.mp isEmpty).2, List.append_nil]
        rfl
      · rw [isLine, logicalLinesFrom]
        simp only [dropBlanks_append isBlanks lacks, stays]
        rfl
  | @broken first second feed further text isFeed furtherBlanks furtherLacks _
      inductionHypothesis =>
      rw [List.forall_mem_append] at closed
      have isOneLine : Text.IsOneLine (first.flatten ++ ['\\']) :=
        Text.isOneLine_append (isOneLine_flatten closed.1) (by simp [Text.IsOneLine])
      have stays := isContinued_append (isClosed_flatten closed.1) even
      have goesOn : isContinued (start.text ++ (first.flatten ++ ['\\'])) := by
        rw [← List.append_assoc, isContinued_concat, stays]
        rfl
      have lacksFirst : Text.LacksLead isBlank (first.flatten ++ ['\\']) := by
        rw [List.append_assoc] at lacks
        exact Text.lacksLead_of_append lacks
      have shape :
          blanks ++ (first.flatten ++ ['\\'] ++ feed ++ (further ++ text)) ++ ending ++ rest =
            blanks ++ (first.flatten ++ ['\\']) ++ feed ++
              (further ++ text ++ ending ++ rest) := by
        simp only [List.append_assoc]
      have feeds : feed.count '\n' = 1 := by
        cases isFeed <;> rfl
      have count :
          (first.flatten ++ ['\\'] ++ feed ++ (further ++ text)).count '\n' =
            text.count '\n' + 1 := by
        simp only [List.count_append, count_feed_of_isOneLine (isOneLine_flatten closed.1),
          count_feed_of_isOneLine (isOneLine_of_isBlanks furtherBlanks), feeds]
        simp [Nat.add_comm]
      have place :
          number + 1 + text.count '\n' + 1 = number + (text.count '\n' + 1) + 1 := by
        omega
      have further :=
        @inductionHypothesis (number + 1) ⟨start.number, start.text ++ first.flatten⟩ further
          closed.2 stays furtherBlanks furtherLacks
      rw [shape, Text.physicalLines_of_isFeed
        (Text.isOneLine_append (isOneLine_of_isBlanks isBlanks) isOneLine) isFeed,
        logicalLinesFrom]
      simp only [dropBlanks_append isBlanks lacksFirst]
      rw [if_pos goesOn, ← List.append_assoc, List.dropLast_concat, further, count, place,
        List.flatten_append, List.append_assoc]

/-- A broken text starts like its pieces, or with the backslash of a break. -/
theorem lacksLead_of_isBroken
    {condition : Char → Bool}
    {pieces : List (List Char)}
    {text : List Char}
    (broken : IsBroken pieces text)
    (lacks : Text.LacksLead condition pieces.flatten)
    (noBackslash : condition '\\' = false) :
    Text.LacksLead condition text := by
  cases broken with
  | whole =>
      exact lacks
  | @broken first second _ _ _ _ _ _ _ =>
      cases shape : first.flatten with
      | nil =>
          exact Text.lacksLead_cons noBackslash _
      | cons lead further =>
          refine Text.lacksLead_cons (lacks lead (further ++ second.flatten) ?_) _
          rw [List.flatten_append, shape]
          rfl

/-- The first physical line of a broken text is a part of it that is not empty. -/
theorem physicalLines_of_isBroken
    {pieces : List (List Char)}
    {blanks text ending rest : List Char}
    (broken : IsBroken pieces text)
    (closed : ∀ piece ∈ pieces, IsClosed isRaw piece)
    (notEmpty : pieces.flatten ≠ [])
    (isBlanks : IsBlanks blanks)
    (ends : EndsLine ending rest) :
    ∃ line further lines,
      text = line ++ further ∧
        line ≠ [] ∧
        Text.physicalLines (blanks ++ text ++ ending ++ rest) = (blanks ++ line) :: lines := by
  have blanksLine := isOneLine_of_isBlanks isBlanks
  cases broken with
  | whole =>
      have isOneLine := Text.isOneLine_append blanksLine (isOneLine_flatten closed)
      rcases physicalLines_of_endsLine isOneLine ends with ⟨isEmpty, -, -⟩ | isLine
      · exact absurd (List.append_eq_nil_iff.mp isEmpty).2 notEmpty
      · exact ⟨pieces.flatten, [], _, (List.append_nil _).symm, notEmpty, isLine⟩
  | @broken first _ feed further text isFeed _ _ _ =>
      rw [List.forall_mem_append] at closed
      have isOneLine : Text.IsOneLine (first.flatten ++ ['\\']) :=
        Text.isOneLine_append (isOneLine_flatten closed.1) (by simp [Text.IsOneLine])
      have isLine := Text.physicalLines_of_isFeed
        (Text.isOneLine_append blanksLine isOneLine) isFeed (further ++ text ++ ending ++ rest)
      refine ⟨first.flatten ++ ['\\'], feed ++ (further ++ text),
        Text.physicalLines (further ++ text ++ ending ++ rest), by simp, by simp, ?_⟩
      simpa only [List.append_assoc] using isLine

/-- A written declaration with its breaks is one logical line, numbered by its first line. -/
theorem logicalLinesFrom_of_writesDeclaration
    {number : Nat}
    {key : String}
    {variants : List String}
    {pieces : List (List Char)}
    {blanks text ending rest : List Char}
    (writes : WritesDeclaration key variants pieces)
    (named : key ≠ "")
    (broken : IsBroken pieces text)
    (isBlanks : IsBlanks blanks)
    (ends : EndsLine ending rest) :
    logicalLinesFrom number none (Text.physicalLines (blanks ++ text ++ ending ++ rest)) =
      ⟨number, pieces.flatten⟩ ::
        logicalLinesFrom (number + text.count '\n' + 1) none (Text.physicalLines rest) := by
  obtain ⟨lead, behind, shape, noBlank, noMark⟩ := writes.starts named
  have lacksBlank : Text.LacksLead isBlank text := by
    refine lacksLead_of_isBroken broken ?_ rfl
    rw [shape]
    exact Text.lacksLead_cons noBlank behind
  have lacksMark : Text.LacksLead isCommentMark text := by
    refine lacksLead_of_isBroken broken ?_ rfl
    rw [shape]
    exact Text.lacksLead_cons noMark behind
  have notEmpty : pieces.flatten ≠ [] := by
    rw [shape]
    exact List.cons_ne_nil _ _
  have whole :
      logicalLinesFrom number (some ⟨number, []⟩)
          (Text.physicalLines (blanks ++ text ++ ending ++ rest)) =
        ⟨number, [] ++ pieces.flatten⟩ ::
          logicalLinesFrom (number + text.count '\n' + 1) none (Text.physicalLines rest) :=
    logicalLinesFrom_of_isBroken broken writes.isClosed rfl isBlanks lacksBlank ends
  obtain ⟨line, further, lines, rfl, lineNotEmpty, isLine⟩ :=
    physicalLines_of_isBroken broken writes.isClosed notEmpty isBlanks ends
  have starts : isSkipped (dropBlanks (blanks ++ line)) = false := by
    rw [dropBlanks_append isBlanks (Text.lacksLead_of_append lacksBlank)]
    obtain ⟨first, others, rfl⟩ := List.exists_cons_of_ne_nil lineNotEmpty
    exact lacksMark first _ rfl
  rw [isLine] at whole ⊢
  rw [logicalLinesFrom_none starts, whole, List.nil_append]

/-! ## Files -/

/-- Whether a line is blank or a comment. -/
inductive IsSkippable :
    List Char →
    Prop where
  | blank
      {line : List Char} :
      IsBlanks line →
      IsSkippable line
  | comment
      {blanks further : List Char}
      {mark : Char} :
      IsBlanks blanks →
      isCommentMark mark →
      (∀ character ∈ further, character ≠ '\n') →
      IsSkippable (blanks ++ mark :: further)

/-- Whether a text whose first line has a number writes some declarations. -/
inductive IsLayout :
    Nat →
    List Char →
    List Property →
    Prop where
  | nothing
      (number : Nat) :
      IsLayout number [] []
  | skippable
      {number : Nat}
      {line ending rest : List Char}
      {properties : List Property} :
      IsSkippable line →
      EndsLine ending rest →
      IsLayout (number + 1) rest properties →
      IsLayout number (line ++ ending ++ rest) properties
  | declaration
      {number : Nat}
      {key : String}
      {variants : List String}
      {pieces : List (List Char)}
      {blanks text ending rest : List Char}
      {properties : List Property} :
      IsBlanks blanks →
      WritesDeclaration key variants pieces →
      IsBroken pieces text →
      EndsLine ending rest →
      IsLayout (number + text.count '\n' + 1) rest properties →
      IsLayout number (blanks ++ text ++ ending ++ rest) (⟨key, variants, number⟩ :: properties)

namespace IsSkippable

variable
  {line : List Char}

theorem noFeed
    (skippable : IsSkippable line) :
    ∀ character ∈ line, character ≠ '\n' := by
  cases skippable with
  | blank isBlanks =>
      exact fun character isMember => (isOneLine_of_isBlanks isBlanks character isMember).1
  | comment isBlanks isMark noFeed =>
      refine List.forall_mem_append.mpr
        ⟨fun character isMember => (isOneLine_of_isBlanks isBlanks character isMember).1,
          List.forall_mem_cons.mpr ⟨?_, noFeed⟩⟩
      rintro rfl
      cases isMark

theorem isSkipped
    (skippable : IsSkippable line) :
    Properties.isSkipped (dropBlanks line) := by
  cases skippable with
  | blank isBlanks =>
      rw [dropBlanks, List.dropWhile_eq_nil_iff.mpr isBlanks]
      rfl
  | @comment _ further mark isBlanks isMark _ =>
      have noBlank : isBlank mark = false := by
        rw [isCommentMark, Bool.or_eq_true, beq_iff_eq, beq_iff_eq] at isMark
        rcases isMark with rfl | rfl <;> rfl
      rw [dropBlanks_append isBlanks (Text.lacksLead_cons noBlank further)]
      exact isMark

/-- A carriage return that ends a comment may be dropped with the line feed after it. -/
theorem dropFinalReturn
    (skippable : IsSkippable line) :
    IsSkippable (Text.dropFinalReturn line) := by
  cases skippable with
  | blank isBlanks =>
      rw [Text.dropFinalReturn_of_isOneLine (isOneLine_of_isBlanks isBlanks)]
      exact .blank isBlanks
  | @comment blanks further mark isBlanks isMark noFeed =>
      rw [Text.dropFinalReturn]
      split
      · rename_i isReturn
        cases further with
        | nil =>
            simp only [List.getLast?_concat, Option.some.injEq] at isReturn
            subst isReturn
            cases isMark
        | cons character further =>
            rw [List.dropLast_append_of_ne_nil (List.cons_ne_nil _ _), List.dropLast_cons_cons]
            exact .comment isBlanks isMark fun other isMember =>
              noFeed other (List.mem_of_mem_dropLast isMember)
      · exact .comment isBlanks isMark noFeed

/-- A line to be skipped starts no logical line. -/
theorem logicalLinesFrom
    (skippable : IsSkippable line)
    (number : Nat)
    (lines : List (List Char)) :
    Properties.logicalLinesFrom number none (line :: lines) =
      Properties.logicalLinesFrom (number + 1) none lines := by
  rw [Properties.logicalLinesFrom]
  simp only [skippable.isSkipped, if_true]

/-- A blank line or a comment is skipped, whether it is ended or not. -/
theorem logicalLinesFrom_physicalLines
    {ending rest : List Char}
    (skippable : IsSkippable line)
    (ends : EndsLine ending rest)
    (number : Nat) :
    Properties.logicalLinesFrom number none (Text.physicalLines (line ++ ending ++ rest)) =
      Properties.logicalLinesFrom (number + 1) none (Text.physicalLines rest) := by
  cases ends with
  | feed rest isFeed =>
      cases isFeed with
      | feed =>
          rw [List.append_assoc, List.singleton_append, Text.physicalLines_cons skippable.noFeed,
            skippable.dropFinalReturn.logicalLinesFrom]
      | returnFeed =>
          have noFeed : ∀ character ∈ line ++ ['\r'], character ≠ '\n' :=
            List.forall_mem_append.mpr ⟨skippable.noFeed, by simp⟩
          have shape : line ++ ['\r', '\n'] ++ rest = (line ++ ['\r']) ++ '\n' :: rest := by simp
          have dropped : Text.dropFinalReturn (line ++ ['\r']) = line := by
            simp [Text.dropFinalReturn]
          rw [shape, Text.physicalLines_cons noFeed, dropped, skippable.logicalLinesFrom]
  | final =>
      rw [List.append_nil, List.append_nil]
      cases line with
      | nil =>
          rfl
      | cons character line =>
          rw [Text.physicalLines_last skippable.noFeed (List.cons_ne_nil _ _),
            skippable.logicalLinesFrom]
          rfl

end IsSkippable

/-- What the logical lines of a layout declare, after the declarations of earlier lines. -/
theorem outcomesAfter_of_isLayout
    {number : Nat}
    {text : List Char}
    {properties : List Property}
    (isLayout : IsLayout number text properties)
    {earlier : List Property}
    (wellDeclared : WellDeclared properties)
    (fresh : ∀ other ∈ earlier, ∀ property ∈ properties, other.key ≠ property.key) :
    outcomesAfter earlier (logicalLinesFrom number none (Text.physicalLines text)) =
      properties.map .ok := by
  induction isLayout generalizing earlier with
  | nothing number =>
      rfl
  | skippable skippable ends _ inductionHypothesis =>
      rw [skippable.logicalLinesFrom_physicalLines ends]
      exact inductionHypothesis wellDeclared fresh
  | @declaration number key variants pieces _ _ _ _ properties isBlanks writes broken ends _
      inductionHypothesis =>
      obtain ⟨distinct, named, inhabited⟩ := wellDeclared
      rw [List.pairwise_cons] at distinct
      rw [List.forall_mem_cons] at named inhabited
      have isFresh : earlier.find? (·.key == key) = none := by
        refine List.find?_eq_none.mpr fun other isMember same => ?_
        exact fresh other isMember _ List.mem_cons_self (beq_iff_eq.mp same)
      have declares : declarationAfter earlier ⟨number, pieces.flatten⟩ = .ok ⟨key, variants, number⟩ := by
        rw [declarationAfter, writes.declaration named.1]
        simp only [isFresh]
      rw [logicalLinesFrom_of_writesDeclaration writes named.1 broken isBlanks ends,
        outcomesAfter, declares, List.map_cons]
      simp only
      rw [inductionHypothesis ⟨distinct.2, named.2, inhabited.2⟩ ?_]
      exact List.forall_mem_cons.mpr
        ⟨distinct.1, fun other isMember property isProperty =>
          fresh other isMember property (List.mem_cons_of_mem _ isProperty)⟩

/-- Declarations with distinct keys are read back from each of their layouts, in order and with the
lines that they start on. -/
theorem read_of_isLayout
    {text : List Char}
    {properties : List Property}
    (isLayout : IsLayout 1 text properties)
    (wellDeclared : WellDeclared properties) :
    read text = .ok properties := by
  have declared := outcomesAfter_of_isLayout isLayout wellDeclared (List.forall_mem_nil _)
  have noErrors : (properties.map Except.ok).filterMap error? = [] := by
    simp [List.filterMap_map, Function.comp_def, error?]
  have all : (properties.map Except.ok).filterMap declared? = properties := by
    simp [List.filterMap_map, Function.comp_def, declared?]
  rw [read, outcomes, logicalLines, declared, noErrors]
  simp only [all]

/-- A comment, a break and an escape within the key, an escaped blank before the first variant and
an empty second one. -/
theorem read_broken_key :
    read "# to\\\r\n a\\\n  \\u003D : \\ x|".toList = .ok [⟨"a=", [" x", ""], 2⟩] := by
  have isUnit : WritesUnit '='.toNat ['0', '0', '3', 'D'] :=
    @WritesUnit.digits 0 0 3 13 _ _ _ _ (.inl rfl) (.inl rfl) (.inl rfl) (.inr rfl)
  have isKey : Writes isRawInKey "a=".toList [['a'], ['\\', 'u', '0', '0', '3', 'D']] := by
    change Writes isRawInKey ['a', '='] _
    exact .raw rfl (.escape (.unit isUnit) .nil)
  have isFirst : Writes isRawInValue " x".toList [['\\', ' '], ['x']] :=
    .escape (.itself (by decide)) (.raw rfl .nil)
  have isSecond : Writes isRawInValue "".toList [] :=
    .nil
  have isValue : WritesVariants [" x", ""] [['\\', ' '], ['x'], ['|']] :=
    .further isFirst (.last isSecond)
  have blank : IsBlanks [' '] := by simp [IsBlanks, isBlank]
  have separates : Separates [' ', ':', ' '] ['\\', ' ', 'x', '|'] :=
    .sign blank rfl blank (Text.lacksLead_cons rfl _)
  have writes : WritesDeclaration "a=" [" x", ""]
      [['a'], ['\\', 'u', '0', '0', '3', 'D'], [' '], [':'], [' '], ['\\', ' '], ['x'], ['|']] :=
    @WritesDeclaration.pieces _ _ _ _ [' ', ':', ' '] isKey (Text.lacksLead_cons rfl _) separates
      isValue
  have whole : IsBroken
      [['\\', 'u', '0', '0', '3', 'D'], [' '], [':'], [' '], ['\\', ' '], ['x'], ['|']]
      ['\\', 'u', '0', '0', '3', 'D', ' ', ':', ' ', '\\', ' ', 'x', '|'] :=
    .whole _
  have broken : IsBroken
      [['a'], ['\\', 'u', '0', '0', '3', 'D'], [' '], [':'], [' '], ['\\', ' '], ['x'], ['|']]
      ['a', '\\', '\n', ' ', ' ',
        '\\', 'u', '0', '0', '3', 'D', ' ', ':', ' ', '\\', ' ', 'x', '|'] :=
    .broken [['a']] .feed (List.forall_mem_append.mpr ⟨blank, blank⟩) (Text.lacksLead_cons rfl _)
      whole
  have comment : IsSkippable ['#', ' ', 't', 'o', '\\'] :=
    @IsSkippable.comment [] [' ', 't', 'o', '\\'] '#' (List.forall_mem_nil _) rfl (by simp)
  have declares :=
    @IsLayout.declaration 2 _ _ _ _ _ _ _ _ blank writes broken .final (.nothing _)
  have isLayout := IsLayout.skippable comment (.feed _ .returnFeed) declares
  exact read_of_isLayout isLayout ⟨by simp, by simp, by simp⟩

end Phrasebook.Properties
