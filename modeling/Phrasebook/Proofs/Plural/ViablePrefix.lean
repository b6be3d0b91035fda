import Phrasebook.Proofs.Plural.LongestWord
import Phrasebook.Proofs.Plural.Lookahead

namespace Phrasebook.Plural

/-!
# Completing the tokens before a mismatch

Wherever reading is refused, the tokens before that place can be completed to an expression: a
missing operand by a literal, an open parenthesis by its counterpart, and a first branch by a second
one.
-/

/-! ## Completing tokens -/

/-- Whether a token can be written. -/
def Token.IsWritable
    (token : Token) :
    Prop :=
  ∃ word, token.lexeme.IsWrittenAs word

/-- Whether further tokens make a phrase of a level of some tokens. -/
def IsCompletable
    (level : Nat)
    (tokens : List Token) :
    Prop :=
  ∃ further expression,
    (∀ token ∈ further, token.IsWritable) ∧ Phrase level (tokens ++ further) expression

/-- The literal zero, which is the simplest operand. -/
def zeroToken :
    Token :=
  ⟨.number 0, 0⟩

theorem isWritable_zeroToken :
    zeroToken.IsWritable := by
  have written : (Lexeme.number (Int64.ofNat (Text.decimalValue ['0']))).IsWrittenAs ['0'] :=
    .number (List.cons_ne_nil _ _) (List.forall_mem_singleton.mpr rfl) (by decide)
  exact ⟨['0'], written⟩

theorem isWritable_mark
    (symbol : Symbol)
    (offset : Nat) :
    Token.IsWritable ⟨.mark symbol, offset⟩ :=
  ⟨_, .mark symbol⟩

namespace IsCompletable

theorem of_phrase
    {level : Nat}
    {tokens : List Token}
    {expression : Expression}
    (phrase : Phrase level tokens expression) :
    IsCompletable level tokens :=
  ⟨[], expression, by simp, by simpa using phrase⟩

theorem nil :
    IsCompletable 0 [] :=
  ⟨[zeroToken], _, by simpa using isWritable_zeroToken, .number 0 0⟩

theorem tighter
    {level : Nat}
    {tokens : List Token}
    (below : level < conditionalLevel)
    (completable : IsCompletable level tokens) :
    IsCompletable (level + 1) tokens := by
  obtain ⟨further, expression, writable, phrase⟩ := completable
  exact ⟨further, expression, writable, .tighter below phrase⟩

theorem negation
    {tokens : List Token}
    (offset : Nat)
    (completable : IsCompletable 0 tokens) :
    IsCompletable 0 (⟨.mark .not, offset⟩ :: tokens) := by
  obtain ⟨further, expression, writable, phrase⟩ := completable
  exact ⟨further, _, writable, .negation offset phrase⟩

/-- An open parenthesis can be closed. -/
theorem parenthesized
    {tokens : List Token}
    (opening : Nat)
    (completable : IsCompletable conditionalLevel tokens) :
    IsCompletable 0 (⟨.mark .openParenthesis, opening⟩ :: tokens) := by
  obtain ⟨further, expression, writable, phrase⟩ := completable
  refine ⟨further ++ [⟨.mark .closeParenthesis, 0⟩], expression, ?_, ?_⟩
  · exact List.forall_mem_append.mpr ⟨writable, by simpa using isWritable_mark _ _⟩
  · simpa using Phrase.parenthesized opening 0 phrase

theorem binary
    {level : Nat}
    {operator : BinaryOperator}
    {leftTokens tokens : List Token}
    {left : Expression}
    (offset : Nat)
    (atLevel : operator.level = level + 1)
    (leftPhrase : Phrase (level + 1) leftTokens left)
    (completable : IsCompletable level tokens) :
    IsCompletable (level + 1) (leftTokens ++ ⟨.mark (.binary operator), offset⟩ :: tokens) := by
  obtain ⟨further, expression, writable, phrase⟩ := completable
  have made := Phrase.binary operator offset atLevel leftPhrase phrase
  rw [← List.cons_append, ← List.append_assoc] at made
  exact ⟨further, _, writable, made⟩

/-- Nothing at all can be completed to a phrase of any level. -/
theorem nilAt
    {level : Nat}
    (bounded : level ≤ conditionalLevel) :
    IsCompletable level [] := by
  induction level with
  | zero =>
      exact nil
  | succ level inductionHypothesis =>
      exact (inductionHypothesis (Nat.le_of_succ_le bounded)).tighter bounded

/-- A first branch that can be completed can be followed by a second one. -/
theorem firstBranch
    {conditionTokens tokens : List Token}
    {condition : Expression}
    (question : Nat)
    (conditionPhrase : Phrase loosestLevel conditionTokens condition)
    (completable : IsCompletable conditionalLevel tokens) :
    IsCompletable conditionalLevel (conditionTokens ++ ⟨.mark .question, question⟩ :: tokens) := by
  obtain ⟨further, expression, writable, phrase⟩ := completable
  obtain ⟨second, otherwise, secondWritable, secondPhrase⟩ := nilAt (Nat.le_refl conditionalLevel)
  have made := Phrase.conditional question 0 conditionPhrase phrase secondPhrase
  have shape :
      conditionTokens ++ ⟨.mark .question, question⟩ :: (tokens ++ further) ++
          ⟨.mark .colon, 0⟩ :: ([] ++ second) =
        (conditionTokens ++ ⟨.mark .question, question⟩ :: tokens) ++
          (further ++ ⟨.mark .colon, 0⟩ :: second) := by
    simp
  rw [shape] at made
  refine ⟨_, _, List.forall_mem_append.mpr ⟨writable, ?_⟩, made⟩
  exact List.forall_mem_cons.mpr ⟨isWritable_mark .colon 0, secondWritable⟩

theorem secondBranch
    {conditionTokens trueTokens tokens : List Token}
    {condition whenTrue : Expression}
    (question colon : Nat)
    (conditionPhrase : Phrase loosestLevel conditionTokens condition)
    (truePhrase : Phrase conditionalLevel trueTokens whenTrue)
    (completable : IsCompletable conditionalLevel tokens) :
    IsCompletable conditionalLevel
      (conditionTokens ++ ⟨.mark .question, question⟩ :: trueTokens ++
        ⟨.mark .colon, colon⟩ :: tokens) := by
  obtain ⟨further, expression, writable, phrase⟩ := completable
  have made := Phrase.conditional question colon conditionPhrase truePhrase phrase
  rw [← List.cons_append, ← List.append_assoc] at made
  exact ⟨further, _, writable, made⟩

end IsCompletable

/-! ## What is read before a mismatch -/

theorem expectSymbol_eq_error
    {symbol : Symbol}
    {given : List Token}
    {mismatch : Mismatch}
    (refused : expectSymbol symbol given = .error mismatch) :
    mismatch.remaining = given := by
  unfold expectSymbol at refused
  split at refused
  · cases refused
    rfl
  · split at refused
    · cases refused
    · cases refused
      rfl

/-- What a reading of a level takes before a mismatch can be completed to a phrase of the level. -/
def TakesCompletable
    (level : Nat)
    {given : List Token}
    (reading : Reading given) :
    Prop :=
  ∀ mismatch,
    reading = .error mismatch →
    ∃ taken, given = taken ++ mismatch.remaining ∧ IsCompletable level taken

/-- What a continuation takes before a mismatch can be completed to a phrase, together with a phrase
before it. -/
def TakesCompletableFurther
    (level : Nat)
    (left : Expression)
    {given : List Token}
    (continuation : Continuation given) :
    Prop :=
  ∀ before mismatch,
    Phrase level before left →
    continuation = .error mismatch →
    ∃ taken, given = taken ++ mismatch.remaining ∧ IsCompletable level (before ++ taken)

mutual

theorem takesCompletable_readConditional
    (given : List Token) :
    TakesCompletable conditionalLevel (readConditional given) := by
  intro mismatch read
  rw [readConditional] at read
  split at read
  · rename_i conditionRead
    cases read
    obtain ⟨taken, shape, completable⟩ :=
      takesCompletable_readChain loosestLevel given (Nat.le_refl _) _ conditionRead
    exact ⟨taken, shape, completable.tighter (by decide)⟩
  · rename_i condition afterCondition shorterCondition conditionRead
    obtain ⟨conditionTokens, conditionShape, conditionPhrase⟩ :=
      takes_readChain loosestLevel given (Nat.le_refl _) _ _ _ conditionRead
    split at read
    · rename_i question afterQuestion shorterQuestion
      simp only [List.length_cons] at shorterQuestion
      split at read
      · rename_i trueRead
        cases read
        obtain ⟨taken, shape, completable⟩ :=
          takesCompletable_readConditional afterQuestion _ trueRead
        exact ⟨_, by simp [conditionShape, shape], completable.firstBranch question conditionPhrase⟩
      · rename_i whenTrue beforeColon shorterColon trueRead
        obtain ⟨trueTokens, trueShape, truePhrase⟩ :=
          takes_readConditional afterQuestion _ _ _ trueRead
        split at read
        · rename_i colonRefused
          cases read
          have remaining := expectSymbol_eq_error colonRefused
          refine ⟨_, ?_, (IsCompletable.of_phrase truePhrase).firstBranch question conditionPhrase⟩
          simp [conditionShape, trueShape, remaining]
        · rename_i afterColon shorterAfter colonTaken
          obtain ⟨colon, colonShape⟩ := expectSymbol_eq_ok colonTaken
          split at read
          · rename_i falseRead
            cases read
            obtain ⟨taken, shape, completable⟩ :=
              takesCompletable_readConditional afterColon _ falseRead
            refine ⟨_, ?_, completable.secondBranch question colon conditionPhrase truePhrase⟩
            simp [conditionShape, trueShape, colonShape, shape]
          · cases read
    · cases read
  termination_by (given.length, loosestLevel + 2)

theorem takesCompletable_readChain
    (level : Nat)
    (given : List Token)
    (bounded : level ≤ loosestLevel) :
    TakesCompletable level (readChain level given) := by
  intro mismatch read
  cases level with
  | zero =>
      rw [readChain] at read
      exact takesCompletable_readNegation given _ read
  | succ tighter =>
      rw [readChain] at read
      split at read
      · rename_i leftRead
        cases read
        obtain ⟨taken, shape, completable⟩ :=
          takesCompletable_readChain tighter given (Nat.le_of_succ_le bounded) _ leftRead
        exact ⟨taken, shape, completable.tighter (Nat.lt_succ_of_lt bounded)⟩
      · rename_i left afterLeft shorterLeft leftRead
        obtain ⟨leftTokens, leftShape, leftPhrase⟩ :=
          takes_readChain tighter given (Nat.le_of_succ_le bounded) _ _ _ leftRead
        have leftLooser : Phrase (tighter + 1) leftTokens left :=
          .tighter (Nat.lt_succ_of_lt bounded) leftPhrase
        split at read
        · rename_i furtherRead
          cases read
          obtain ⟨taken, shape, completable⟩ :=
            takesCompletableFurther_continueChain tighter left afterLeft bounded _ _ leftLooser
              furtherRead
          exact ⟨_, by simp [leftShape, shape], completable⟩
        · cases read
  termination_by (given.length, level + 1)

theorem takesCompletableFurther_continueChain
    (tighter : Nat)
    (left : Expression)
    (given : List Token)
    (bounded : tighter < loosestLevel) :
    TakesCompletableFurther (tighter + 1) left (continueChain tighter left given) := by
  intro before mismatch leftPhrase read
  rw [continueChain] at read
  split at read
  · cases read
  · rename_i operator found
    obtain ⟨atLevel, offset, afterOperator, shape⟩ := operatorAt?_eq_some found
    subst shape
    simp only at read
    split at read
    · rename_i rightRead
      cases read
      obtain ⟨taken, shape, completable⟩ :=
        takesCompletable_readChain tighter afterOperator (Nat.le_of_lt bounded) _ rightRead
      exact ⟨_, by simp [shape], completable.binary offset atLevel leftPhrase⟩
    · rename_i right afterRight shorterRight rightRead
      obtain ⟨rightTokens, rightShape, rightPhrase⟩ :=
        takes_readChain tighter afterOperator (Nat.le_of_lt bounded) _ _ _ rightRead
      have joined := Phrase.binary operator offset atLevel leftPhrase rightPhrase
      split at read
      · rename_i furtherRead
        cases read
        obtain ⟨taken, shape, completable⟩ :=
          takesCompletableFurther_continueChain tighter _ afterRight bounded _ _ joined furtherRead
        rw [List.append_assoc] at completable
        exact ⟨_, by simp [rightShape, shape], completable⟩
      · cases read
  termination_by (given.length, tighter + 1)

theorem takesCompletable_readNegation
    (given : List Token) :
    TakesCompletable 0 (readNegation given) := by
  intro mismatch read
  rw [readNegation.eq_def] at read
  split at read
  · rename_i offset afterNot
    split at read
    · rename_i operandRead
      cases read
      obtain ⟨taken, shape, completable⟩ := takesCompletable_readNegation afterNot _ operandRead
      exact ⟨_, by simp [shape], completable.negation offset⟩
    · cases read
  · rename_i opening afterOpening
    split at read
    · rename_i innerRead
      cases read
      obtain ⟨taken, shape, completable⟩ :=
        takesCompletable_readConditional afterOpening _ innerRead
      exact ⟨_, by simp [shape], completable.parenthesized opening⟩
    · rename_i inner beforeClose shorterClose innerRead
      obtain ⟨innerTokens, innerShape, innerPhrase⟩ :=
        takes_readConditional afterOpening _ _ _ innerRead
      split at read
      · rename_i closeRefused
        cases read
        have remaining := expectSymbol_eq_error closeRefused
        refine ⟨_, ?_, (IsCompletable.of_phrase innerPhrase).parenthesized opening⟩
        simp [innerShape, remaining]
      · cases read
  · cases read
  · cases read
  · cases read
    exact ⟨[], rfl, .nil⟩
  termination_by (given.length, 0)

end

/-- The tokens before a mismatch can be completed to a whole expression. -/
theorem isCompletable_of_readWhole
    {given : List Token}
    {mismatch : Mismatch}
    (refused : readWhole given = .error mismatch) :
    ∃ taken, given = taken ++ mismatch.remaining ∧ IsCompletable conditionalLevel taken := by
  unfold readWhole at refused
  split at refused
  · rename_i conditionalRead
    cases refused
    exact takesCompletable_readConditional given _ conditionalRead
  · cases refused
  · rename_i found token rest shorter conditionalRead
    cases refused
    obtain ⟨taken, shape, phrase⟩ := takes_readConditional given _ _ _ conditionalRead
    exact ⟨taken, shape, .of_phrase phrase⟩

end Phrasebook.Plural
