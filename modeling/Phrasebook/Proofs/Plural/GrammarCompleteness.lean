import Phrasebook.Proofs.Plural.Grammar

namespace Phrasebook.Plural

/-!
# Reading finds every phrase

The tokens of a phrase, before tokens that do not go on with it, are read as the expression of the
phrase. A chain is told by how it goes on: whatever expression its operators after the phrase lead
to is what reading the whole leads to, so the left operand of an operator is a phrase like any
other.
-/

/-! ## Steps of reading -/

theorem expectSymbol_mark
    (symbol : Symbol)
    (offset : Nat)
    (rest : List Token) :
    expectSymbol symbol (⟨.mark symbol, offset⟩ :: rest) = .ok ⟨rest, Nat.lt_succ_self rest.length⟩ := by
  simp [expectSymbol]

/-- Whether a reading finds an expression and leaves some tokens over. -/
def Finds
    {given : List Token}
    (reading : Reading given)
    (expression : Expression)
    (rest : List Token) :
    Prop :=
  ∃ shorter, reading = .ok (expression, ⟨rest, shorter⟩)

/-- Whether a phrase of a level goes on over some tokens to an expression and leaves some of them
over. A phrase of level zero goes on over nothing. -/
def GoesOn
    (phrase : Expression)
    (given : List Token)
    (expression : Expression)
    (rest : List Token) :
    Nat →
    Prop
  | 0 => expression = phrase ∧ rest = given
  | tighter + 1 =>
      ∃ noLonger, continueChain tighter phrase given = .ok (expression, ⟨rest, noLonger⟩)

/-- Whether no operator below a level leads some tokens. -/
def LacksTighter
    (level : Nat)
    (given : List Token) :
    Prop :=
  ∀ tighter < level, operatorAt? tighter given = none

/-- Whether some tokens do not go on with any expression before them. -/
structure EndsPhrase
    (given : List Token) :
    Prop where
  noOperator : ∀ level, operatorAt? level given = none
  noQuestion : ∀ offset rest, given ≠ ⟨.mark .question, offset⟩ :: rest

theorem endsPhrase_nil :
    EndsPhrase [] :=
  ⟨fun _ => rfl, fun _ _ same => List.cons_ne_nil _ _ same.symm⟩

theorem operatorAt?_symbol
    {symbol : Symbol}
    (level offset : Nat)
    (rest : List Token)
    (noOperator : ∀ operator, symbol ≠ .binary operator) :
    operatorAt? level (⟨.mark symbol, offset⟩ :: rest) = none := by
  unfold operatorAt?
  split
  · rename_i operator _ _ same
    cases same
    exact absurd rfl (noOperator operator)
  · rfl

theorem endsPhrase_symbol
    {symbol : Symbol}
    (offset : Nat)
    (rest : List Token)
    (noOperator : ∀ operator, symbol ≠ .binary operator)
    (noQuestion : symbol ≠ .question) :
    EndsPhrase (⟨.mark symbol, offset⟩ :: rest) where
  noOperator level := operatorAt?_symbol level offset rest noOperator
  noQuestion _ _ same := by
    cases same
    exact noQuestion rfl

theorem operatorAt?_operator
    (operator : BinaryOperator)
    (offset : Nat)
    (rest : List Token) :
    operatorAt? operator.level (⟨.mark (.binary operator), offset⟩ :: rest) = some operator := by
  simp [operatorAt?]

theorem lacksTighter_operator
    (operator : BinaryOperator)
    (offset : Nat)
    (rest : List Token) :
    LacksTighter operator.level (⟨.mark (.binary operator), offset⟩ :: rest) := by
  intro tighter below
  simp [operatorAt?, Nat.ne_of_gt below]

/-- A phrase does not go on where no operator of its level follows. -/
theorem goesOn_of_operatorAt?
    {level : Nat}
    {given : List Token}
    (phrase : Expression)
    (noOperator : operatorAt? level given = none) :
    GoesOn phrase given phrase given level := by
  cases level with
  | zero =>
      exact ⟨rfl, rfl⟩
  | succ tighter =>
      exact ⟨Nat.le_refl _, by rw [continueChain, noOperator]⟩

/-! ## Chains -/

/-- Whether reading a chain of a level finds, before any tokens that no tighter operator leads,
what the expression of the phrase goes on to. -/
def ReadsChain
    (level : Nat)
    (tokens : List Token)
    (expression : Expression) :
    Prop :=
  ∀ given final rest,
    LacksTighter level given →
    GoesOn expression given final rest level →
    Finds (readChain level (tokens ++ given)) final rest

/-- Whether reading a conditional finds the expression of the phrase. -/
def ReadsConditional
    (tokens : List Token)
    (expression : Expression) :
    Prop :=
  ∀ given, EndsPhrase given → Finds (readConditional (tokens ++ given)) expression given

/-- A chain is read alone where no operator up to its level follows. -/
theorem ReadsChain.alone
    {level : Nat}
    {tokens given : List Token}
    {expression : Expression}
    (reads : ReadsChain level tokens expression)
    (lacks : LacksTighter (level + 1) given) :
    Finds (readChain level (tokens ++ given)) expression given :=
  reads given expression given
    (fun tighter below => lacks tighter (Nat.lt_succ_of_lt below))
    (goesOn_of_operatorAt? expression (lacks level (Nat.lt_succ_self level)))

theorem readsChain_zero
    {tokens : List Token}
    {expression : Expression}
    (finds : ∀ given, Finds (readNegation (tokens ++ given)) expression given) :
    ReadsChain 0 tokens expression := by
  rintro given final rest - ⟨rfl, rfl⟩
  rw [readChain]
  exact finds rest

theorem ReadsChain.readNegation
    {tokens : List Token}
    {expression : Expression}
    (reads : ReadsChain 0 tokens expression)
    (given : List Token) :
    Finds (readNegation (tokens ++ given)) expression given := by
  have found := reads given expression given (fun _ below => absurd below (Nat.not_lt_zero _))
    ⟨rfl, rfl⟩
  rw [readChain] at found
  exact found

/-- A phrase is a phrase of the next looser level. -/
theorem ReadsChain.looser
    {level : Nat}
    {tokens : List Token}
    {expression : Expression}
    (reads : ReadsChain level tokens expression) :
    ReadsChain (level + 1) tokens expression := by
  rintro given final rest lacks ⟨noLonger, continued⟩
  obtain ⟨shorter, read⟩ := reads.alone lacks
  refine ⟨Nat.lt_of_le_of_lt noLonger shorter, ?_⟩
  rw [readChain]
  simp only [read, continued]

/-- A chain goes on with an operator of its level and a tighter phrase. -/
theorem ReadsChain.binary
    {level : Nat}
    {operator : BinaryOperator}
    {offset : Nat}
    {leftTokens rightTokens : List Token}
    {left right : Expression}
    (atLevel : operator.level = level + 1)
    (readsLeft : ReadsChain (level + 1) leftTokens left)
    (readsRight : ReadsChain level rightTokens right) :
    ReadsChain (level + 1)
      (leftTokens ++ ⟨.mark (.binary operator), offset⟩ :: rightTokens)
      (.binary left.offset operator left right) := by
  rintro given final rest lacks ⟨noLonger, continued⟩
  obtain ⟨shorter, rightRead⟩ := readsRight.alone lacks
  rw [List.append_assoc, List.cons_append]
  refine readsLeft _ final rest (atLevel ▸ lacksTighter_operator operator offset _) ?_
  have found := operatorAt?_operator operator offset (rightTokens ++ given)
  rw [atLevel] at found
  refine ⟨Nat.le_succ_of_le (Nat.le_of_lt (Nat.lt_of_le_of_lt noLonger shorter)), ?_⟩
  rw [continueChain, found]
  simp only [rightRead, continued]

/-! ## Conditionals -/

theorem ReadsChain.readsConditional
    {tokens : List Token}
    {expression : Expression}
    (reads : ReadsChain loosestLevel tokens expression) :
    ReadsConditional tokens expression := by
  intro given ends
  obtain ⟨shorter, read⟩ := reads.alone fun tighter _ => ends.noOperator tighter
  refine ⟨shorter, ?_⟩
  rw [readConditional, read]
  simp only
  split
  · exact absurd rfl (ends.noQuestion _ _)
  · rfl

theorem readsConditional_conditional
    {question colon : Nat}
    {conditionTokens trueTokens falseTokens : List Token}
    {condition whenTrue whenFalse : Expression}
    (readsCondition : ReadsChain loosestLevel conditionTokens condition)
    (readsTrue : ReadsConditional trueTokens whenTrue)
    (readsFalse : ReadsConditional falseTokens whenFalse) :
    ReadsConditional
      (conditionTokens ++ ⟨.mark .question, question⟩ :: trueTokens ++
        ⟨.mark .colon, colon⟩ :: falseTokens)
      (.conditional condition.offset condition whenTrue whenFalse) := by
  intro given ends
  obtain ⟨falseShorter, falseRead⟩ := readsFalse given ends
  obtain ⟨trueShorter, trueRead⟩ :=
    readsTrue (⟨.mark .colon, colon⟩ :: (falseTokens ++ given))
      (endsPhrase_symbol colon _ (by simp) (by simp))
  have closed : LacksTighter (loosestLevel + 1)
      (⟨.mark .question, question⟩ ::
        (trueTokens ++ ⟨.mark .colon, colon⟩ :: (falseTokens ++ given))) :=
    fun tighter _ => operatorAt?_symbol tighter question _ (by simp)
  obtain ⟨conditionShorter, conditionRead⟩ := readsCondition.alone closed
  have shape :
      conditionTokens ++ ⟨.mark .question, question⟩ :: trueTokens ++
          ⟨.mark .colon, colon⟩ :: falseTokens ++ given =
        conditionTokens ++ ⟨.mark .question, question⟩ ::
          (trueTokens ++ ⟨.mark .colon, colon⟩ :: (falseTokens ++ given)) := by
    simp
  rw [shape]
  refine ⟨by simp; omega, ?_⟩
  rw [readConditional, conditionRead]
  simp only [trueRead, expectSymbol_mark, falseRead]

/-! ## Phrases -/

/-- A phrase is read as its expression: as a chain, or at the level of conditionals. -/
theorem Phrase.reads
    {level : Nat}
    {tokens : List Token}
    {expression : Expression}
    (phrase : Phrase level tokens expression) :
    (level ≤ loosestLevel → ReadsChain level tokens expression) ∧
      (level = conditionalLevel → ReadsConditional tokens expression) := by
  induction phrase with
  | number offset value =>
      refine ⟨fun _ => readsChain_zero fun given => ?_, fun same => by cases same⟩
      rw [List.singleton_append]
      exact ⟨by simp, by rw [readNegation]⟩
  | name offset name =>
      refine ⟨fun _ => readsChain_zero fun given => ?_, fun same => by cases same⟩
      rw [List.singleton_append]
      exact ⟨by simp, by rw [readNegation]⟩
  | negation offset _ operandHypothesis =>
      refine ⟨fun _ => readsChain_zero fun given => ?_, fun same => by cases same⟩
      obtain ⟨shorter, read⟩ := (operandHypothesis.1 (Nat.zero_le _)).readNegation given
      rw [List.cons_append]
      exact ⟨Nat.lt_succ_of_lt shorter, by rw [readNegation, read]⟩
  | parenthesized opening closing _ innerHypothesis =>
      refine ⟨fun _ => readsChain_zero fun given => ?_, fun same => by cases same⟩
      obtain ⟨shorter, read⟩ :=
        innerHypothesis.2 rfl (⟨.mark .closeParenthesis, closing⟩ :: given)
          (endsPhrase_symbol closing given (by simp) (by simp))
      rw [List.cons_append, List.cons_append, List.append_assoc, List.singleton_append]
      refine ⟨by simp; omega, ?_⟩
      rw [readNegation, read]
      simp only [expectSymbol_mark]
  | @tighter level _ _ below _ inductionHypothesis =>
      have reads := inductionHypothesis.1 (Nat.le_of_lt_succ below)
      refine ⟨fun _ => reads.looser, fun same => ?_⟩
      have loosest : level = loosestLevel := Nat.succ.inj same
      subst loosest
      exact reads.readsConditional
  | binary operator offset atLevel _ _ leftHypothesis rightHypothesis =>
      refine ⟨fun bounded => ?_, fun same => ?_⟩
      · exact (leftHypothesis.1 bounded).binary atLevel
          (rightHypothesis.1 (Nat.le_of_succ_le bounded))
      · rw [same] at atLevel
        cases operator <;> cases atLevel
  | conditional question colon _ _ _ conditionHypothesis trueHypothesis falseHypothesis =>
      refine ⟨fun bounded => absurd bounded (by decide), fun _ => ?_⟩
      exact readsConditional_conditional (conditionHypothesis.1 (Nat.le_refl _))
        (trueHypothesis.2 rfl) (falseHypothesis.2 rfl)

/-- Tokens are read as a whole just if they are a phrase of the loosest level. -/
theorem readWhole_eq_ok_iff
    {given : List Token}
    {expression : Expression} :
    readWhole given = .ok expression ↔ Phrase conditionalLevel given expression := by
  refine ⟨phrase_of_readWhole, fun phrase => ?_⟩
  have found := phrase.reads.2 rfl [] endsPhrase_nil
  rw [List.append_nil] at found
  obtain ⟨shorter, read⟩ := found
  rw [readWhole, read]

end Phrasebook.Plural
