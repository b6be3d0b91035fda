import Phrasebook.Plural.Reader
import Phrasebook.Proofs.Result

namespace Phrasebook.Plural

/-!
# The grammar of plural expressions

Which tokens make which expression, level by level and without a reader: level zero holds the
tightest phrases, the levels one to five the binary operators, and level six the conditional.
Every expression that reading finds is a phrase of the tokens that it took.
-/

/-- The level of the conditional. -/
def conditionalLevel :
    Nat :=
  loosestLevel + 1

/-- The phrases of a level: their tokens, and the expression that they make. -/
inductive Phrase :
    Nat →
    List Token →
    Expression →
    Prop where
  | number (offset : Nat) (value : Int64) :
      Phrase 0 [⟨.number value, offset⟩] (.literal offset value)
  | name (offset : Nat) (name : String) :
      Phrase 0 [⟨.name name, offset⟩] (.variable offset name)
  | negation
      (offset : Nat)
      {tokens : List Token}
      {operand : Expression} :
      Phrase 0 tokens operand →
      Phrase 0 (⟨.mark .not, offset⟩ :: tokens) (.negation offset operand)
  | parenthesized
      (opening closing : Nat)
      {tokens : List Token}
      {inner : Expression} :
      Phrase conditionalLevel tokens inner →
      Phrase 0
        (⟨.mark .openParenthesis, opening⟩ :: tokens ++ [⟨.mark .closeParenthesis, closing⟩])
        inner
  | tighter
      {level : Nat}
      {tokens : List Token}
      {expression : Expression} :
      level < conditionalLevel →
      Phrase level tokens expression →
      Phrase (level + 1) tokens expression
  | binary
      (operator : BinaryOperator)
      (offset : Nat)
      {level : Nat}
      {leftTokens rightTokens : List Token}
      {left right : Expression} :
      operator.level = level + 1 →
      Phrase (level + 1) leftTokens left →
      Phrase level rightTokens right →
      Phrase (level + 1)
        (leftTokens ++ ⟨.mark (.binary operator), offset⟩ :: rightTokens)
        (.binary left.offset operator left right)
  | conditional
      (question colon : Nat)
      {conditionTokens trueTokens falseTokens : List Token}
      {condition whenTrue whenFalse : Expression} :
      Phrase loosestLevel conditionTokens condition →
      Phrase conditionalLevel trueTokens whenTrue →
      Phrase conditionalLevel falseTokens whenFalse →
      Phrase conditionalLevel
        (conditionTokens ++ ⟨.mark .question, question⟩ :: trueTokens ++
          ⟨.mark .colon, colon⟩ :: falseTokens)
        (.conditional condition.offset condition whenTrue whenFalse)

theorem expectSymbol_eq_ok
    {symbol : Symbol}
    {given rest : List Token}
    {shorter : rest.length < given.length}
    (taken : expectSymbol symbol given = .ok ⟨rest, shorter⟩) :
    ∃ offset, given = ⟨.mark symbol, offset⟩ :: rest := by
  unfold expectSymbol at taken
  split at taken
  · cases taken
  · split at taken
    · rename_i token tokens same
      cases taken
      exact ⟨token.offset, by rw [← same]⟩
    · cases taken

theorem operatorAt?_eq_some
    {level : Nat}
    {given : List Token}
    {operator : BinaryOperator}
    (found : operatorAt? level given = some operator) :
    operator.level = level ∧
      ∃ offset rest, given = ⟨.mark (.binary operator), offset⟩ :: rest := by
  unfold operatorAt? at found
  split at found
  · split at found
    · rename_i atLevel
      cases found
      exact ⟨atLevel, _, _, rfl⟩
    · cases found
  · cases found

/-- What a reading of a level takes from the front of some tokens is a phrase of that level. -/
def Takes
    (level : Nat)
    {given : List Token}
    (reading : Reading given) :
    Prop :=
  ∀ expression rest shorter,
    reading = .ok (expression, ⟨rest, shorter⟩) →
    ∃ taken, given = taken ++ rest ∧ Phrase level taken expression

/-- What a continuation takes from the front of some tokens makes one phrase with a phrase before
them. -/
def TakesFurther
    (level : Nat)
    (left : Expression)
    {given : List Token}
    (continuation : Continuation given) :
    Prop :=
  ∀ before expression rest noLonger,
    Phrase level before left →
    continuation = .ok (expression, ⟨rest, noLonger⟩) →
    ∃ taken, given = taken ++ rest ∧ Phrase level (before ++ taken) expression

mutual

theorem takes_readConditional
    (given : List Token) :
    Takes conditionalLevel (readConditional given) := by
  intro expression rest shorter read
  rw [readConditional] at read
  split at read
  · cases read
  · rename_i condition afterCondition shorterCondition conditionRead
    obtain ⟨conditionTokens, conditionShape, conditionPhrase⟩ :=
      takes_readChain loosestLevel given (Nat.le_refl _) _ _ _ conditionRead
    split at read
    · rename_i question afterQuestion shorterQuestion
      simp only [List.length_cons] at shorterQuestion
      split at read
      · cases read
      · rename_i whenTrue beforeColon shorterColon trueRead
        obtain ⟨trueTokens, trueShape, truePhrase⟩ :=
          takes_readConditional afterQuestion _ _ _ trueRead
        split at read
        · cases read
        · rename_i afterColon shorterAfter colonTaken
          obtain ⟨colon, colonShape⟩ := expectSymbol_eq_ok colonTaken
          split at read
          · cases read
          · rename_i whenFalse remaining shorterRemaining falseRead
            obtain ⟨falseTokens, falseShape, falsePhrase⟩ :=
              takes_readConditional afterColon _ _ _ falseRead
            cases read
            refine ⟨_, ?_, .conditional question colon conditionPhrase truePhrase falsePhrase⟩
            simp [conditionShape, trueShape, colonShape, falseShape]
    · cases read
      exact ⟨conditionTokens, conditionShape, .tighter (by decide) conditionPhrase⟩
  termination_by (given.length, loosestLevel + 2)

theorem takes_readChain
    (level : Nat)
    (given : List Token)
    (bounded : level ≤ loosestLevel) :
    Takes level (readChain level given) := by
  intro expression rest shorter read
  cases level with
  | zero =>
      rw [readChain] at read
      exact takes_readNegation given _ _ _ read
  | succ tighter =>
      rw [readChain] at read
      split at read
      · cases read
      · rename_i left afterLeft shorterLeft leftRead
        obtain ⟨leftTokens, leftShape, leftPhrase⟩ :=
          takes_readChain tighter given (Nat.le_of_succ_le bounded) _ _ _ leftRead
        have leftLooser : Phrase (tighter + 1) leftTokens left :=
          .tighter (Nat.lt_succ_of_lt bounded) leftPhrase
        split at read
        · cases read
        · rename_i chain remaining noLonger furtherRead
          obtain ⟨furtherTokens, furtherShape, phrase⟩ :=
            takesFurther_continueChain tighter left afterLeft bounded _ _ _ _ leftLooser
              furtherRead
          cases read
          exact ⟨leftTokens ++ furtherTokens, by simp [leftShape, furtherShape], phrase⟩
  termination_by (given.length, level + 1)

theorem takesFurther_continueChain
    (tighter : Nat)
    (left : Expression)
    (given : List Token)
    (bounded : tighter < loosestLevel) :
    TakesFurther (tighter + 1) left (continueChain tighter left given) := by
  intro before expression rest noLonger leftPhrase read
  rw [continueChain] at read
  split at read
  · cases read
    exact ⟨[], rfl, by simpa using leftPhrase⟩
  · rename_i operator found
    obtain ⟨atLevel, offset, afterOperator, shape⟩ := operatorAt?_eq_some found
    subst shape
    simp only at read
    split at read
    · cases read
    · rename_i right afterRight shorterRight rightRead
      obtain ⟨rightTokens, rightShape, rightPhrase⟩ :=
        takes_readChain tighter afterOperator (Nat.le_of_lt bounded) _ _ _ rightRead
      have joined := Phrase.binary operator offset atLevel leftPhrase rightPhrase
      split at read
      · cases read
      · rename_i chain remaining noLongerChain furtherRead
        obtain ⟨furtherTokens, furtherShape, phrase⟩ :=
          takesFurther_continueChain tighter _ afterRight bounded _ _ _ _ joined furtherRead
        cases read
        refine ⟨⟨.mark (.binary operator), offset⟩ :: rightTokens ++ furtherTokens, ?_, ?_⟩
        · simp [rightShape, furtherShape]
        · simpa using phrase
  termination_by (given.length, tighter + 1)

theorem takes_readNegation
    (given : List Token) :
    Takes 0 (readNegation given) := by
  intro expression rest shorter read
  rw [readNegation.eq_def] at read
  split at read
  · rename_i offset afterNot
    split at read
    · cases read
    · rename_i operand remaining shorterRemaining operandRead
      obtain ⟨operandTokens, operandShape, operandPhrase⟩ :=
        takes_readNegation afterNot _ _ _ operandRead
      cases read
      exact ⟨_, by simp [operandShape], .negation offset operandPhrase⟩
  · rename_i opening afterOpening
    split at read
    · cases read
    · rename_i inner beforeClose shorterClose innerRead
      obtain ⟨innerTokens, innerShape, innerPhrase⟩ :=
        takes_readConditional afterOpening _ _ _ innerRead
      split at read
      · cases read
      · rename_i remaining shorterRemaining closeTaken
        obtain ⟨closing, closeShape⟩ := expectSymbol_eq_ok closeTaken
        cases read
        exact ⟨_, by simp [innerShape, closeShape], .parenthesized opening closing innerPhrase⟩
  · rename_i value offset remaining
    cases read
    exact ⟨_, rfl, .number offset value⟩
  · rename_i name offset remaining
    cases read
    exact ⟨_, rfl, .name offset name⟩
  · cases read
  termination_by (given.length, 0)

end

/-- Tokens that are read as a whole are a phrase of the loosest level. -/
theorem phrase_of_readWhole
    {given : List Token}
    {expression : Expression}
    (read : readWhole given = .ok expression) :
    Phrase conditionalLevel given expression := by
  unfold readWhole at read
  split at read
  · cases read
  · rename_i found shorter conditionalRead
    obtain ⟨taken, shape, phrase⟩ := takes_readConditional given _ _ _ conditionalRead
    cases read
    rw [List.append_nil] at shape
    exact shape ▸ phrase
  · cases read

/-! ## Literals -/

/-- Whether a number of a token is at least zero. -/
def Token.IsNonnegative
    (token : Token) :
    Prop :=
  ∀ value, token.lexeme = .number value → 0 ≤ value.toInt

/-- Whether every literal of an expression is at least zero. -/
def Expression.LiteralsNonnegative :
    Expression →
    Prop
  | .variable _ _ => True
  | .literal _ value => 0 ≤ value.toInt
  | .negation _ operand => operand.LiteralsNonnegative
  | .binary _ _ left right => left.LiteralsNonnegative ∧ right.LiteralsNonnegative
  | .conditional _ condition whenTrue whenFalse =>
      condition.LiteralsNonnegative ∧ whenTrue.LiteralsNonnegative ∧
        whenFalse.LiteralsNonnegative

/-- A phrase has no other literals than its tokens. -/
theorem Phrase.literalsNonnegative
    {level : Nat}
    {tokens : List Token}
    {expression : Expression}
    (phrase : Phrase level tokens expression)
    (nonnegative : ∀ token ∈ tokens, token.IsNonnegative) :
    expression.LiteralsNonnegative := by
  induction phrase with
  | number offset value =>
      exact nonnegative _ (List.mem_singleton_self _) value rfl
  | name offset name =>
      trivial
  | negation offset _ operandHypothesis =>
      exact operandHypothesis fun token member =>
        nonnegative token (List.mem_cons_of_mem _ member)
  | parenthesized opening closing _ innerHypothesis =>
      exact innerHypothesis fun token member => nonnegative token (by simp [member])
  | tighter _ _ inductionHypothesis =>
      exact inductionHypothesis nonnegative
  | binary operator offset _ _ _ leftHypothesis rightHypothesis =>
      exact ⟨leftHypothesis fun token member => nonnegative token (by simp [member]),
        rightHypothesis fun token member => nonnegative token (by simp [member])⟩
  | conditional question colon _ _ _ conditionHypothesis trueHypothesis falseHypothesis =>
      exact ⟨conditionHypothesis fun token member => nonnegative token (by simp [member]),
        trueHypothesis fun token member => nonnegative token (by simp [member]),
        falseHypothesis fun token member => nonnegative token (by simp [member])⟩

theorem toInt_ofNat_of_le_largestLiteral
    {value : Nat}
    (bounded : value ≤ largestLiteral) :
    (Int64.ofNat value).toInt = value := by
  have small : value < 2 ^ 63 := Nat.lt_succ_of_le bounded
  exact Int64.toInt_ofNat_of_lt small

/-- The numbers of the tokens of a text are at least zero. -/
theorem isNonnegative_of_tokensFrom
    {offset : Nat}
    {text : List Char}
    {found : List Token}
    (lexed : tokensFrom offset text = .ok found) :
    ∀ token ∈ found, token.IsNonnegative := by
  fun_induction tokensFrom offset text generalizing found with
  | case1 offset =>
      cases lexed
      simp
  | case2 offset character text space inductionHypothesis =>
      exact inductionHypothesis lexed
  | case3 offset character text noSpace symbol further leading inductionHypothesis =>
      obtain ⟨rest, restLexed, rfl⟩ := cons_of_map_eq_ok lexed
      refine List.forall_mem_cons.mpr ⟨?_, inductionHypothesis restLexed⟩
      intro value isNumber
      cases isNumber
  | case4 offset character text noSpace noSymbol isDigit digits bounded =>
      rename_i inductionHypothesis
      obtain ⟨rest, restLexed, rfl⟩ := cons_of_map_eq_ok lexed
      refine List.forall_mem_cons.mpr ⟨?_, inductionHypothesis restLexed⟩
      intro value isNumber
      cases isNumber
      rw [toInt_ofNat_of_le_largestLiteral bounded]
      exact Int.natCast_nonneg _
  | case5 offset character text noSpace noSymbol isDigit digits =>
      cases lexed
  | case6 offset character text noSpace noSymbol noDigit isLead name =>
      rename_i inductionHypothesis
      obtain ⟨rest, restLexed, rfl⟩ := cons_of_map_eq_ok lexed
      refine List.forall_mem_cons.mpr ⟨?_, inductionHypothesis restLexed⟩
      intro value isNumber
      cases isNumber
  | case7 offset character text noSpace noSymbol noDigit noLead =>
      cases lexed

/-- An expression that is read from a text has no negative literals. -/
theorem literalsNonnegative_of_read
    {source : String}
    {expression : Expression}
    (read : Expression.read source = .ok expression) :
    expression.LiteralsNonnegative := by
  unfold Expression.read at read
  split at read
  · cases read
  · rename_i found lexed
    split at read
    · cases read
    · rename_i readAs
      cases read
      exact (phrase_of_readWhole readAs).literalsNonnegative (isNonnegative_of_tokensFrom lexed)

end Phrasebook.Plural
