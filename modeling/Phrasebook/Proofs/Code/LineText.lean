import Phrasebook.Proofs.Code.Blocks
import Phrasebook.Proofs.Code.StringValue
import Phrasebook.Proofs.Plural.CodeReading
import Phrasebook.Proofs.Text.Lines

namespace Phrasebook

/-!
# Texts of lines

A line of code starts with something other than a space, so that all spaces before it are those of
its indentation, and it holds no line break, unless a name in it does.
-/

namespace Code

variable {sameLine : Prop}

/-! ## Texts of lines -/

/-- Whether a text can be that of a line: it starts with something other than a space, and stays on
one line if `sameLine` holds, which says that the names of locales do. -/
structure IsLineText
    (sameLine : Prop)
    (text : String) :
    Prop where
  lead : text.toList.head?.any (· != ' ')
  onOneLine : sameLine → Text.OnOneLine text.toList

namespace IsLineText

/-- A text that is given can be checked. -/
theorem constant
    {text : String}
    (checked : text.toList.head?.any (· != ' ') ∧ Text.OnOneLine text.toList) :
    IsLineText sameLine text :=
  ⟨checked.1, fun _ => checked.2⟩

theorem append
    {first second : String}
    (isText : IsLineText sameLine first)
    (further : sameLine → Text.OnOneLine second.toList) :
    IsLineText sameLine (first ++ second) := by
  obtain ⟨lead, onOneLine⟩ := isText
  refine ⟨?_, fun holds => ?_⟩
  · rw [String.toList_append, List.head?_append]
    cases shape : first.toList.head? with
    | none =>
        rw [shape] at lead
        cases lead
    | some character =>
        rw [shape] at lead
        exact lead
  · rw [String.toList_append]
    exact (onOneLine holds).append (further holds)

theorem append_constant
    {first second : String}
    (isText : IsLineText sameLine first)
    (further : Text.OnOneLine second.toList) :
    IsLineText sameLine (first ++ second) :=
  isText.append fun _ => further

/-- What stays on one line stands between two texts that are given. -/
theorem between
    {first middle last : String}
    (checked :
      (first.toList.head?.any (· != ' ') ∧ Text.OnOneLine first.toList) ∧
        Text.OnOneLine last.toList)
    (middleOn : sameLine → Text.OnOneLine middle.toList) :
    IsLineText sameLine (first ++ middle ++ last) :=
  ((constant checked.1).append middleOn).append_constant checked.2

/-- The line for one of the patterns of a choice. -/
theorem arm
    {pattern value last : String}
    (patternText : IsLineText sameLine pattern)
    (valueOn : sameLine → Text.OnOneLine value.toList)
    (lastOn : Text.OnOneLine last.toList) :
    IsLineText sameLine (pattern ++ " => " ++ value ++ last) := by
  have arrow : Text.OnOneLine " => ".toList := by decide
  exact ((patternText.append_constant arrow).append valueOn).append_constant lastOn

/-- A text that stands behind nothing or behind another. -/
theorem behind
    {before text : String}
    (isText : IsLineText sameLine text)
    (beforeText : before = "" ∨ IsLineText sameLine before) :
    IsLineText sameLine (before ++ text) := by
  rcases beforeText with rfl | beforeText
  · rw [String.empty_append]
    exact isText
  · exact beforeText.append isText.onOneLine

end IsLineText

/-- Whether each line has a text that can be that of a line, or none. -/
def HaveLineTexts
    (sameLine : Prop)
    (lines : List CodeLine) :
    Prop :=
  ∀ line ∈ lines, line.text = "" ∨ IsLineText sameLine line.text

namespace HaveLineTexts

/-- Lines that are given can be checked. -/
theorem constant
    {lines : List CodeLine}
    (checked :
      ∀ line ∈ lines,
        line.text = "" ∨
          line.text.toList.head?.any (· != ' ') ∧ Text.OnOneLine line.text.toList) :
    HaveLineTexts sameLine lines :=
  fun line member => (checked line member).imp_right .constant

theorem nil :
    HaveLineTexts sameLine [] :=
  fun _ member => absurd member List.not_mem_nil

theorem append
    {first second : List CodeLine}
    (firstTexts : HaveLineTexts sameLine first)
    (secondTexts : HaveLineTexts sameLine second) :
    HaveLineTexts sameLine (first ++ second) :=
  List.forall_mem_append.mpr ⟨firstTexts, secondTexts⟩

theorem plain
    {text : String}
    {lines : List CodeLine}
    (isText : IsLineText sameLine text)
    (texts : HaveLineTexts sameLine lines) :
    HaveLineTexts sameLine (.plain text :: lines) :=
  List.forall_mem_cons.mpr ⟨.inr isText, texts⟩

theorem blank
    {lines : List CodeLine}
    (texts : HaveLineTexts sameLine lines) :
    HaveLineTexts sameLine (.blank :: lines) :=
  List.forall_mem_cons.mpr ⟨.inl rfl, texts⟩

theorem block
    {opening closing : String}
    {lines : List CodeLine}
    (openingText : IsLineText sameLine opening)
    (texts : HaveLineTexts sameLine lines)
    (closingText : IsLineText sameLine closing) :
    HaveLineTexts sameLine (Code.block opening lines closing) := by
  have last : HaveLineTexts sameLine [.closing closing] :=
    List.forall_mem_singleton.mpr (.inr closingText)
  exact List.forall_mem_cons.mpr ⟨.inr openingText, texts.append last⟩

theorem flatMap
    {α : Type}
    {lines : α → List CodeLine}
    {list : List α}
    (texts : ∀ element ∈ list, HaveLineTexts sameLine (lines element)) :
    HaveLineTexts sameLine (list.flatMap lines) := by
  intro line member
  obtain ⟨element, inList, inLines⟩ := List.mem_flatMap.mp member
  exact texts element inList line inLines

theorem map
    {α : Type}
    {text : α → String}
    {list : List α}
    (texts : ∀ element ∈ list, IsLineText sameLine (text element)) :
    HaveLineTexts sameLine (list.map fun element => .plain (text element)) := by
  intro line member
  obtain ⟨element, inList, rfl⟩ := List.mem_map.mp member
  exact .inr (texts element inList)

end HaveLineTexts

/-! ## Texts that lines are made of -/

theorem isLineText_closeBrace :
    IsLineText sameLine "\x7d" :=
  .constant (by decide)

theorem onOneLine_quotedString
    (text : String) :
    Text.OnOneLine (Text.quotedString text).toList := by
  rw [Text.quotedString, String.toList_ofList]
  exact Text.onOneLine_quoted text.toList

theorem onOneLine_intercalate
    {texts : List String}
    (onOneLine : ∀ text ∈ texts, Text.OnOneLine text.toList) :
    Text.OnOneLine (", ".intercalate texts).toList := by
  rw [String.toList_intercalate]
  intro character member
  rcases Text.mem_of_mem_intercalate member with inComma | ⟨part, isPart, inPart⟩
  · have comma : Text.OnOneLine ", ".toList := by decide
    exact comma character inComma
  · obtain ⟨text, inTexts, rfl⟩ := List.mem_map.mp isPart
    exact onOneLine text inTexts character inPart

/-- A number in decimal is the text of a line. -/
theorem isLineText_toString
    (number : Nat) :
    IsLineText sameLine (toString number) := by
  have apart :
      ∀ character ∈ (toString number).toList,
        character ≠ ' ' ∧ character ≠ '\n' ∧ character ≠ '\r' := by
    intro character member
    have digit : character.isDigit :=
      Nat.isDigit_of_mem_toDigits (by decide) (by decide) (Nat.toList_repr ▸ member)
    refine ⟨?_, ?_, ?_⟩ <;> rintro rfl <;> exact absurd digit (by decide)
  refine ⟨?_, fun _ character member => (apart character member).2⟩
  have digits : (toString number).toList ≠ [] :=
    fun isEmpty => Nat.toDigits_ne_nil (Nat.toList_repr.symm.trans isEmpty)
  obtain ⟨first, others, shape⟩ := List.exists_cons_of_ne_nil digits
  rw [shape] at apart ⊢
  simpa using (apart first List.mem_cons_self).1

/-- The expression for some pieces is the text of a line. -/
theorem isLineText_stringExpression
    (table : Placeholder.ArgumentTable)
    (pieces : List Placeholder.Piece) :
    IsLineText sameLine (stringExpression table pieces) := by
  refine ⟨?_, fun _ character member => ?_⟩
  · unfold stringExpression
    split <;> simp
  · have unbroken := List.all_eq_true.mp (isUnbroken_stringExpression table pieces) character member
    constructor
    · rintro rfl
      revert unbroken
      decide
    · rintro rfl
      revert unbroken
      decide

end Code

/-! ## Plural rules -/

namespace Plural

open Code

variable {sameLine : Prop}

theorem isLineText_parenthesizedIf
    {text : String}
    (isText : IsLineText sameLine text)
    (needed : Bool) :
    IsLineText sameLine (Expression.parenthesizedIf needed text) := by
  cases needed with
  | false =>
      exact isText
  | true =>
      exact .between (by decide) isText.onOneLine

theorem isLineText_conditional
    {condition whenTrue whenFalse : String}
    (conditionText : IsLineText sameLine condition)
    (trueText : IsLineText sameLine whenTrue)
    (falseText : IsLineText sameLine whenFalse) :
    IsLineText sameLine
      ("if " ++ condition ++ " \x7b " ++ whenTrue ++ " \x7d else \x7b " ++ whenFalse ++
        " \x7d") := by
  have openFalse : Text.OnOneLine " \x7d else \x7b ".toList := by decide
  have guarded : IsLineText sameLine ("if " ++ condition ++ " \x7b ") :=
    .between (by decide) conditionText.onOneLine
  have untilFalse := (guarded.append trueText.onOneLine).append_constant openFalse
  exact (untilFalse.append falseText.onOneLine).append_constant (by decide)

/-- The code of an expression is the text of a line. -/
theorem Expression.isLineText_code
    (expression : Expression)
    (nonnegative : expression.LiteralsNonnegative)
    (nested : Bool) :
    IsLineText sameLine (expression.code nested) := by
  induction expression generalizing nested with
  | «variable» offset name =>
      rw [code]
      exact .constant (by decide)
  | literal offset value =>
      obtain ⟨magnitude, same⟩ := Int.eq_ofNat_of_zero_le nonnegative
      rw [code, same]
      exact isLineText_toString magnitude
  | negation offset operand operandHypothesis =>
      have bang : IsLineText sameLine "!" := .constant (by decide)
      exact isLineText_parenthesizedIf
        (bang.append (operandHypothesis nonnegative true).onOneLine) nested
  | binary offset operator left right leftHypothesis rightHypothesis =>
      obtain ⟨leftNonnegative, rightNonnegative⟩ := nonnegative
      rw [code]
      split
      · have dividend :
            IsLineText sameLine ("i64::checked_rem(" ++ left.code false ++ ", ") :=
          .between (by decide) (leftHypothesis leftNonnegative false).onOneLine
        have divisor := dividend.append (rightHypothesis rightNonnegative false).onOneLine
        exact isLineText_parenthesizedIf (divisor.append_constant (by decide)) nested
      · have space : Text.OnOneLine " ".toList := by decide
        have spelled : Text.OnOneLine operator.spelling.toList := by cases operator <;> decide
        have leftText := (leftHypothesis leftNonnegative true).append_constant space
        have between := (leftText.append_constant spelled).append_constant space
        exact isLineText_parenthesizedIf
          (between.append (rightHypothesis rightNonnegative true).onOneLine) nested
  | conditional offset condition whenTrue whenFalse conditionHypothesis trueHypothesis
      falseHypothesis =>
      obtain ⟨conditionNonnegative, trueNonnegative, falseNonnegative⟩ := nonnegative
      exact isLineText_parenthesizedIf
        (isLineText_conditional (conditionHypothesis conditionNonnegative false)
          (trueHypothesis trueNonnegative false) (falseHypothesis falseNonnegative false)) nested

/-- The code of a rule is the text of a line. -/
theorem Rule.isLineText_code
    (rule : Rule)
    (nonnegative : rule.expression.LiteralsNonnegative) :
    IsLineText sameLine rule.code := by
  have isText : IsLineText sameLine (rule.expression.code false) :=
    rule.expression.isLineText_code nonnegative false
  unfold Rule.code
  cases rule.type with
  | integer =>
      exact isText
  | boolean =>
      exact .between (by decide) isText.onOneLine

end Plural

end Phrasebook
