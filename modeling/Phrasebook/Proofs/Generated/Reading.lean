import Mathlib
import Phrasebook.Proofs.Generated.Term

namespace Phrasebook.Generated

/-!
# Reading terms in front of further lexemes

A reader takes a term and leaves what follows it, provided that what follows cannot go on with the
term. A unit, which is a negation or tighter, ends before an operator; a term does not.
-/

/-- The marks that end every term before them. -/
def closingMarks :
    List Mark :=
  [.closeParenthesis, .closeBrace, .comma]

/-- Whether a term ends before some lexemes. -/
def closesTerm
    (position : Position) :
    List Lexeme →
    Bool
  | [] => true
  | .mark .openBrace :: _ => position = .guarded
  | .mark mark :: _ => closingMarks.contains mark
  | _ => false

/-- Whether a unit ends before some lexemes. -/
def closesUnit
    (position : Position) :
    List Lexeme →
    Bool
  | [] => true
  | .mark .openBrace :: _ => position = .guarded
  | .mark mark :: _ => closingMarks.contains mark || (Operator.ofMark? mark).isSome
  | _ => false

theorem closesUnit_of_closesTerm
    {position : Position}
    {rest : List Lexeme}
    (closed : closesTerm position rest) :
    closesUnit position rest := by
  unfold closesTerm at closed
  split at closed
  · rfl
  · exact closed
  · rename_i mark _ noBrace
    unfold closesUnit
    split <;> simp_all
  · cases closed

theorem ofMark?_of_mem_closingMarks :
    ∀ mark ∈ closingMarks, Operator.ofMark? mark = none := by
  decide

theorem operatorAt?_of_closesTerm
    {position : Position}
    {rest : List Lexeme}
    (closed : closesTerm position rest)
    (level : Nat) :
    operatorAt? level rest = none := by
  unfold closesTerm at closed
  split at closed
  · rfl
  · rfl
  · rename_i mark _ _
    simp [operatorAt?, ofMark?_of_mem_closingMarks mark (List.contains_iff_mem.mp closed)]
  · cases closed

/-! ## Readers take something -/

theorem lessThan?_of_lt
    {given rest : List Lexeme}
    (shorter : rest.length < given.length) :
    lessThan? given rest = some ⟨rest, shorter⟩ :=
  dif_pos shorter

theorem lessThan?_cons
    (lexeme : Lexeme)
    (rest : List Lexeme) :
    lessThan? (lexeme :: rest) rest = some ⟨rest, Nat.lt_succ_self rest.length⟩ :=
  lessThan?_of_lt _

theorem consuming_of_lt
    {α : Type}
    {given rest : List Lexeme}
    (found : α)
    (shorter : rest.length < given.length) :
    consuming given (some (found, rest)) = some (found, rest) := by
  simp [consuming, Option.filter, shorter]

theorem length_lt_of_consuming
    {α : Type}
    {given rest : List Lexeme}
    {result : Option (α × List Lexeme)}
    {found : α}
    (taken : consuming given result = some (found, rest)) :
    rest.length < given.length :=
  of_decide_eq_true (Option.filter_eq_some_iff.mp taken).2

theorem length_lt_of_readLevel
    {position : Position}
    {level : Nat}
    {given rest : List Lexeme}
    {term : Term}
    (read : readLevel position level given = some (term, rest)) :
    rest.length < given.length := by
  cases level <;> rw [readLevel] at read <;> exact length_lt_of_consuming read

theorem length_lt_of_readNegation
    {position : Position}
    {given rest : List Lexeme}
    {term : Term}
    (read : readNegation position given = some (term, rest)) :
    rest.length < given.length := by
  rw [readNegation.eq_def] at read
  split at read
  · exact Nat.lt_succ_of_lt (length_lt_of_consuming read)
  · exact length_lt_of_consuming read

theorem length_lt_of_readArguments
    {given rest : List Lexeme}
    {arguments : List Term}
    (read : readArguments given = some (arguments, rest)) :
    rest.length < given.length := by
  rw [readArguments.eq_def] at read
  split at read
  · cases read
    exact Nat.lt_succ_self _
  · exact length_lt_of_consuming read

theorem length_lt_of_readConditional
    {given rest : List Lexeme}
    {term : Term}
    (read : readConditional given = some (term, rest)) :
    rest.length < given.length := by
  rw [readConditional] at read
  exact length_lt_of_consuming read

theorem length_lt_of_readSelection
    {given rest : List Lexeme}
    {term : Term}
    (read : readSelection given = some (term, rest)) :
    rest.length < given.length := by
  rw [readSelection] at read
  exact length_lt_of_consuming read

theorem length_lt_of_readValue
    {given rest : List Lexeme}
    {term : Term}
    (read : readValue given = some (term, rest)) :
    rest.length < given.length := by
  rw [readValue.eq_def] at read
  split at read
  · exact Nat.lt_succ_of_lt (length_lt_of_readConditional read)
  · exact Nat.lt_succ_of_lt (length_lt_of_readSelection read)
  · exact length_lt_of_readLevel read

/-! ## Units -/

theorem continueAccess_of_closesUnit
    {position : Position}
    {rest : List Lexeme}
    (closed : closesUnit position rest)
    (base : Term) :
    continueAccess base rest = some (base, rest) := by
  rw [continueAccess.eq_def]
  split
  all_goals first | rfl | (revert closed; simp [closesUnit, closingMarks, Operator.ofMark?])

theorem readPath_of_closesUnit
    {position : Position}
    {rest : List Lexeme}
    (closed : closesUnit position rest)
    (segments : List String) :
    readPath segments rest = (segments, rest) := by
  rw [readPath.eq_def]
  split
  · revert closed
    simp [closesUnit, closingMarks, Operator.ofMark?]
  · rfl

theorem readNamed_of_closesUnit
    {position : Position}
    {rest : List Lexeme}
    (closed : closesUnit position rest)
    (segments : List String) :
    readNamed position (segments, rest) = some (.path segments, rest) := by
  rw [readNamed.eq_def]
  split
  · rename_i same
    cases same
    revert closed
    simp [closesUnit, closingMarks, Operator.ofMark?]
  · rename_i same
    cases same
    cases position with
    | free =>
        revert closed
        simp [closesUnit]
    | guarded =>
        rfl
  · rename_i same
    cases same
    rfl

/-- A unit is read from what stands before its accesses and from these. -/
theorem readNegation_of_access
    {position : Position}
    {given accesses rest : List Lexeme}
    {base term : Term}
    (read : readPrimary position given = some (base, accesses))
    (shorter : accesses.length < given.length)
    (accessed : continueAccess base accesses = some (term, rest))
    (noLonger : rest.length ≤ accesses.length) :
    readNegation position given = some (term, rest) := by
  rw [readNegation.eq_def]
  split
  · rw [readPrimary.eq_def] at read
    cases read
  · simp only [read, Option.bind_eq_bind, Option.bind_some, lessThan?_of_lt shorter, accessed]
    exact consuming_of_lt term (Nat.lt_of_le_of_lt noLonger shorter)

theorem readNegation_of_readPrimary
    {position : Position}
    {given rest : List Lexeme}
    {term : Term}
    (read : readPrimary position given = some (term, rest))
    (shorter : rest.length < given.length)
    (closed : closesUnit position rest) :
    readNegation position given = some (term, rest) :=
  readNegation_of_access read shorter (continueAccess_of_closesUnit closed term) (Nat.le_refl _)

theorem readPrimary_call
    {given rest : List Lexeme}
    {arguments : List Term}
    (position : Position)
    (scope name : String)
    (read : readArguments given = some (arguments, rest)) :
    readPrimary position
        (.name scope :: .mark .pathSeparator :: .name name :: .mark .openParenthesis :: given) =
      some (.call [scope, name] arguments, rest) := by
  rw [readPrimary, readPath, readPath, readNamed]
  · simp [read]
  all_goals simp

theorem continueAccess_method
    {position : Position}
    {given rest : List Lexeme}
    {arguments : List Term}
    (base : Term)
    (name : String)
    (read : readArguments given = some (arguments, rest))
    (closed : closesUnit position rest) :
    continueAccess base (.mark .dot :: .name name :: .mark .openParenthesis :: given) =
      some (.method base name arguments, rest) := by
  rw [continueAccess]
  simp [read, lessThan?_of_lt (length_lt_of_readArguments read),
    continueAccess_of_closesUnit closed]

theorem readNegation_bang
    {position : Position}
    {given rest : List Lexeme}
    {operand : Term}
    (read : readNegation position given = some (operand, rest)) :
    readNegation position (.mark .bang :: given) = some (.negation operand, rest) := by
  rw [readNegation]
  simp only [read, Option.bind_eq_bind, Option.bind_some]
  exact consuming_of_lt _ (length_lt_of_readNegation read)

theorem readNegation_number
    {position : Position}
    {rest : List Lexeme}
    {value : Nat}
    (bounded : value ≤ Plural.largestLiteral)
    (closed : closesUnit position rest) :
    readNegation position (.number value :: rest) = some (.number (Int64.ofNat value), rest) := by
  refine readNegation_of_readPrimary ?_ (by simp) closed
  rw [readPrimary]
  simp [bounded]

theorem readNegation_name
    {position : Position}
    {rest : List Lexeme}
    (name : String)
    (closed : closesUnit position rest) :
    readNegation position (.name name :: rest) = some (.path [name], rest) := by
  refine readNegation_of_readPrimary ?_ (by simp) closed
  rw [readPrimary, readPath_of_closesUnit closed, readNamed_of_closesUnit closed]
  rintro further rfl
  revert closed
  simp [closesUnit, closingMarks, Operator.ofMark?]

theorem readNegation_parenthesized
    {position : Position}
    {inner rest : List Lexeme}
    {term : Term}
    (read :
      readLevel .free loosestLevel (inner ++ .mark .closeParenthesis :: rest) =
        some (term, .mark .closeParenthesis :: rest))
    (closed : closesUnit position rest) :
    readNegation position
        (.mark .openParenthesis :: inner ++ .mark .closeParenthesis :: rest) =
      some (term, rest) := by
  refine readNegation_of_readPrimary ?_ (by simp; omega) closed
  rw [List.cons_append, readPrimary]
  simp [read, expectMark]

theorem readNegation_conditional
    {position : Position}
    {given rest : List Lexeme}
    {term : Term}
    (read : readConditional given = some (term, rest))
    (closed : closesUnit position rest) :
    readNegation position (.keyword .conditional :: given) = some (term, rest) := by
  refine readNegation_of_readPrimary ?_
    (Nat.lt_succ_of_lt (length_lt_of_readConditional read)) closed
  rw [readPrimary]
  exact read

/-! ## Levels -/

/-- What is read at a tight level is read at a looser one if no operator follows it. -/
theorem readLevel_loosen
    {position : Position}
    {tight loose : Nat}
    {given rest : List Lexeme}
    {term : Term}
    (read : readLevel position tight given = some (term, rest))
    (noTighter : tight ≤ loose)
    (noOperator : ∀ level, tight < level → level ≤ loose → operatorAt? level rest = none) :
    readLevel position loose given = some (term, rest) := by
  induction noTighter with
  | refl =>
      exact read
  | @step looser noTighter inductionHypothesis =>
      have readTighter := inductionHypothesis fun level above bounded =>
        noOperator level above (Nat.le_succ_of_le bounded)
      have ended := noOperator (looser + 1) (Nat.lt_succ_of_le noTighter) (Nat.le_refl _)
      have shorter := length_lt_of_readLevel readTighter
      rw [readLevel]
      simp only [readTighter, Option.bind_eq_bind, Option.bind_some, lessThan?_of_lt shorter]
      rw [continueLevel, ended]
      exact consuming_of_lt term shorter

theorem readLevel_of_closesTerm
    {position : Position}
    {tight loose : Nat}
    {given rest : List Lexeme}
    {term : Term}
    (read : readLevel position tight given = some (term, rest))
    (noTighter : tight ≤ loose)
    (closed : closesTerm position rest) :
    readLevel position loose given = some (term, rest) :=
  readLevel_loosen read noTighter fun level _ _ => operatorAt?_of_closesTerm closed level

theorem readLevel_of_readNegation
    {position : Position}
    {level : Nat}
    {given rest : List Lexeme}
    {term : Term}
    (read : readNegation position given = some (term, rest))
    (closed : closesTerm position rest) :
    readLevel position level given = some (term, rest) := by
  have tightest : readLevel position 0 given = some (term, rest) := by
    rw [readLevel, read]
    exact consuming_of_lt term (length_lt_of_readNegation read)
  exact readLevel_of_closesTerm tightest (Nat.zero_le _) closed

/-- The mark of an operator. -/
def Operator.mark :
    Operator →
    Mark
  | .remainder => .percent
  | .less => .less
  | .lessEqual => .lessEqual
  | .greater => .greater
  | .greaterEqual => .greaterEqual
  | .equal => .equal
  | .notEqual => .notEqual
  | .both => .both
  | .either => .either

@[simp]
theorem Operator.ofMark?_mark
    (operator : Operator) :
    ofMark? operator.mark = some operator := by
  cases operator <;> rfl

theorem operatorAt?_mark
    (operator : Operator)
    (level : Nat)
    (rest : List Lexeme) :
    operatorAt? level (.mark operator.mark :: rest) =
      if operator.level = level then some (operator, rest) else none := by
  simp [operatorAt?]

theorem closesUnit_mark
    (position : Position)
    (operator : Operator)
    (rest : List Lexeme) :
    closesUnit position (.mark operator.mark :: rest) := by
  cases operator <;> rfl

theorem Operator.level_bounds
    (operator : Operator) :
    0 < operator.level ∧ operator.level ≤ loosestLevel := by
  cases operator <;> decide

/-- Two units and an operator between them are one term. -/
theorem readLevel_binary
    {position : Position}
    {given rightGiven rest : List Lexeme}
    {operator : Operator}
    {left right : Term}
    (leftRead :
      readNegation position given = some (left, .mark operator.mark :: rightGiven))
    (rightRead : readNegation position rightGiven = some (right, rest))
    (closed : closesTerm position rest) :
    readLevel position loosestLevel given = some (.binary operator left right, rest) := by
  obtain ⟨positive, bounded⟩ := operator.level_bounds
  obtain ⟨tighter, atLevel⟩ : ∃ tighter, operator.level = tighter + 1 :=
    Nat.exists_eq_succ_of_ne_zero (Nat.pos_iff_ne_zero.mp positive)
  have leftShorter := length_lt_of_readNegation leftRead
  have rightShorter := length_lt_of_readNegation rightRead
  have leftAlone : readLevel position 0 given = some (left, .mark operator.mark :: rightGiven) := by
    rw [readLevel, leftRead]
    exact consuming_of_lt left leftShorter
  have leftRead :
      readLevel position tighter given = some (left, .mark operator.mark :: rightGiven) := by
    refine readLevel_loosen leftAlone (Nat.zero_le _) fun level _ noLooser => ?_
    rw [operatorAt?_mark, if_neg]
    omega
  have rightRead : readLevel position tighter rightGiven = some (right, rest) :=
    readLevel_of_readNegation rightRead closed
  have ended := operatorAt?_of_closesTerm closed (tighter + 1)
  have chained :
      readLevel position (tighter + 1) given = some (.binary operator left right, rest) := by
    have whole : rest.length < given.length :=
      Nat.lt_trans rightShorter (Nat.lt_of_succ_lt leftShorter)
    rw [readLevel]
    simp only [leftRead, Option.bind_eq_bind, Option.bind_some, lessThan?_of_lt leftShorter]
    rw [continueLevel, operatorAt?_mark, if_pos atLevel]
    have furtherShorter : rest.length < (Lexeme.mark operator.mark :: rightGiven).length :=
      Nat.lt_succ_of_lt rightShorter
    simp only [lessThan?_cons, rightRead, Option.bind_eq_bind, Option.bind_some,
      lessThan?_of_lt furtherShorter]
    rw [continueLevel, ended]
    simp [consuming_of_lt _ whole]
  exact readLevel_of_closesTerm chained (atLevel ▸ bounded) closed

/-! ## Arguments and blocks -/

theorem readLevel_closeParenthesis
    (position : Position)
    (level : Nat)
    (rest : List Lexeme) :
    readLevel position level (.mark .closeParenthesis :: rest) = none := by
  induction level with
  | zero =>
      rw [readLevel, readNegation, readPrimary]
      all_goals simp [consuming]
  | succ tighter inductionHypothesis =>
      rw [readLevel, inductionHypothesis]
      rfl

theorem readArguments_last
    {given rest : List Lexeme}
    {term : Term}
    (read :
      readLevel .free loosestLevel given = some (term, .mark .closeParenthesis :: rest)) :
    readArguments given = some ([term], rest) := by
  rw [readArguments.eq_def]
  split
  · rw [readLevel_closeParenthesis] at read
    cases read
  · simp only [read, Option.bind_eq_bind, Option.bind_some]
    exact consuming_of_lt _ (Nat.lt_of_succ_lt (length_lt_of_readLevel read))

theorem readArguments_more
    {given furtherGiven rest : List Lexeme}
    {term : Term}
    {others : List Term}
    (read : readLevel .free loosestLevel given = some (term, .mark .comma :: furtherGiven))
    (furtherRead : readArguments furtherGiven = some (others, rest)) :
    readArguments given = some (term :: others, rest) := by
  have shorter := Nat.lt_of_succ_lt (length_lt_of_readLevel read)
  rw [readArguments.eq_def]
  split
  · rw [readLevel_closeParenthesis] at read
    cases read
  · simp only [read, Option.bind_eq_bind, Option.bind_some, lessThan?_of_lt shorter, furtherRead]
    exact consuming_of_lt _ (Nat.lt_trans (length_lt_of_readArguments furtherRead) shorter)

/-- A value that starts with no keyword is an ordinary term. -/
theorem readValue_of_readLevel
    {given rest : List Lexeme}
    {term : Term}
    (read : readLevel .free loosestLevel given = some (term, rest))
    (noKeyword : ∀ keyword further, given ≠ .keyword keyword :: further) :
    readValue given = some (term, rest) := by
  rw [readValue.eq_def]
  split
  · exact absurd rfl (noKeyword _ _)
  · exact absurd rfl (noKeyword _ _)
  · exact read

theorem readBlock_of_readValue
    {given rest : List Lexeme}
    {term : Term}
    (read : readValue given = some (term, .mark .closeBrace :: rest)) :
    readBlock (.mark .openBrace :: given) = some (term, rest) := by
  rw [readBlock]
  simp [expectMark, lessThan?_cons, read]

theorem readConditional_of_parts
    {given trueGiven falseGiven rest : List Lexeme}
    {condition whenTrue whenFalse : Term}
    (conditionRead :
      readLevel .guarded loosestLevel given = some (condition, .mark .openBrace :: trueGiven))
    (trueRead :
      readValue trueGiven =
        some (whenTrue,
          .mark .closeBrace :: .keyword .alternative :: .mark .openBrace :: falseGiven))
    (falseRead : readValue falseGiven = some (whenFalse, .mark .closeBrace :: rest)) :
    readConditional given = some (.conditional condition whenTrue whenFalse, rest) := by
  have conditionShorter := length_lt_of_readLevel conditionRead
  have trueShorter := length_lt_of_readValue trueRead
  have falseShorter := length_lt_of_readValue falseRead
  have further : (Lexeme.mark .openBrace :: falseGiven).length < given.length := by
    simp only [List.length_cons] at *
    omega
  have whole : rest.length < given.length := by
    simp only [List.length_cons] at *
    omega
  rw [readConditional]
  simp [conditionRead, lessThan?_of_lt conditionShorter, readBlock_of_readValue trueRead,
    expectKeyword, lessThan?_of_lt further, readBlock_of_readValue falseRead,
    consuming_of_lt _ whole]

/-! ## Calls and fields -/

theorem readNegation_namedCall
    {position : Position}
    {given rest : List Lexeme}
    {arguments : List Term}
    (name : String)
    (read : readArguments given = some (arguments, rest))
    (closed : closesUnit position rest) :
    readNegation position (.name name :: .mark .openParenthesis :: given) =
      some (.call [name] arguments, rest) := by
  refine readNegation_of_readPrimary ?_ (by simp; have := length_lt_of_readArguments read; omega)
    closed
  rw [readPrimary, readPath, readNamed]
  · simp [read]
  all_goals simp

theorem readNegation_invocation
    {position : Position}
    {given rest : List Lexeme}
    {arguments : List Term}
    (name : String)
    (read : readArguments given = some (arguments, rest))
    (closed : closesUnit position rest) :
    readNegation position (.name name :: .mark .bang :: .mark .openParenthesis :: given) =
      some (.invocation name arguments, rest) := by
  refine readNegation_of_readPrimary ?_ (by simp; have := length_lt_of_readArguments read; omega)
    closed
  rw [readPrimary]
  simp [read]

theorem readNegation_literal
    {position : Position}
    {rest : List Lexeme}
    (written : List Char)
    (closed : closesUnit position rest) :
    readNegation position (.literal written :: rest) = some (.literal written, rest) := by
  refine readNegation_of_readPrimary ?_ (Nat.lt_succ_self rest.length) closed
  rw [readPrimary]

theorem readNegation_receiver
    {position : Position}
    {rest : List Lexeme}
    (closed : closesUnit position rest) :
    readNegation position (.keyword .receiver :: rest) = some (.receiver, rest) := by
  refine readNegation_of_readPrimary ?_ (Nat.lt_succ_self rest.length) closed
  rw [readPrimary]

theorem readNegation_receiverField
    {position : Position}
    {rest : List Lexeme}
    (name : String)
    (closed : closesUnit position rest) :
    readNegation position (.keyword .receiver :: .mark .dot :: .name name :: rest) =
      some (.field .receiver name, rest) := by
  have base :
      readPrimary position (.keyword .receiver :: .mark .dot :: .name name :: rest) =
        some (.receiver, .mark .dot :: .name name :: rest) := by
    rw [readPrimary]
  refine readNegation_of_access base (Nat.lt_succ_self _) ?_ (by simp; omega)
  rw [continueAccess]
  · exact continueAccess_of_closesUnit closed _
  · rintro further rfl
    revert closed
    simp [closesUnit, closingMarks, Operator.ofMark?]

/-! ## Values and selections -/

/-- Some lexemes are the value of a block or an arm, wherever it ends. -/
def ReadsValue
    (lexemes : List Lexeme)
    (term : Term) :
    Prop :=
  ∀ rest, closesTerm .free rest → readValue (lexemes ++ rest) = some (term, rest)

theorem ReadsValue.readValue
    {lexemes : List Lexeme}
    {term : Term}
    (reads : ReadsValue lexemes term) :
    readValue lexemes = some (term, []) := by
  have alone := reads [] rfl
  rwa [List.append_nil] at alone

/-- No value starts with a reserved word. -/
theorem readValue_reserved
    (word : String)
    (rest : List Lexeme) :
    readValue (.reserved word :: rest) = none := by
  have primary : readPrimary .free (.reserved word :: rest) = none := by
    simp [readPrimary]
  have negation : readNegation .free (.reserved word :: rest) = none := by
    simp [readNegation, primary, consuming]
  have chain (level : Nat) : readLevel .free level (.reserved word :: rest) = none := by
    induction level with
    | zero =>
        simp [readLevel, negation, consuming]
    | succ level inductionHypothesis =>
        simp [readLevel, inductionHypothesis, consuming]
  simp [readValue, chain]

/-- A unit that starts with no keyword is a value. -/
theorem readsValue_of_readNegation
    {lexemes : List Lexeme}
    {term : Term}
    (read :
      ∀ rest, closesUnit .free rest →
        readNegation .free (lexemes ++ rest) = some (term, rest))
    (noKeyword : ∀ keyword further rest, lexemes ++ rest ≠ .keyword keyword :: further) :
    ReadsValue lexemes term := by
  intro rest closed
  have chain : readLevel .free loosestLevel (lexemes ++ rest) = some (term, rest) :=
    readLevel_of_readNegation (read rest (closesUnit_of_closesTerm closed)) closed
  exact readValue_of_readLevel chain fun keyword further => noKeyword keyword further rest

/-- The lexemes of an arm of a selection, and what they are read as. -/
structure ReadsArm
    (lexemes : List Lexeme × List Lexeme)
    (arm : Pattern × Term) :
    Prop where
  pattern :
    ∀ rest,
      readPattern (lexemes.1 ++ .mark .thickArrow :: rest) =
        some (arm.1, .mark .thickArrow :: rest)
  value : ReadsValue lexemes.2 arm.2

/-- The lexemes of an arm, its comma included. -/
def armLexemes
    (arm : List Lexeme × List Lexeme) :
    List Lexeme :=
  arm.1 ++ .mark .thickArrow :: (arm.2 ++ [.mark .comma])

/-- The lexemes of a selection. -/
def selectionLexemes
    (subject : List Lexeme)
    (arms : List (List Lexeme × List Lexeme)) :
    List Lexeme :=
  .keyword .selection :: (subject ++ .mark .openBrace ::
    (arms.flatMap armLexemes ++ [.mark .closeBrace]))

/-- A pattern does not close the selection that it stands in. -/
theorem readPattern_closeBrace
    (rest : List Lexeme) :
    readPattern (.mark .closeBrace :: rest) = none :=
  rfl

theorem readArms_of_readsArm
    {lexemes : List (List Lexeme × List Lexeme)}
    {arms : List (Pattern × Term)}
    (reads : List.Forall₂ ReadsArm lexemes arms)
    (rest : List Lexeme) :
    readArms (lexemes.flatMap armLexemes ++ .mark .closeBrace :: rest) = some (arms, rest) := by
  induction reads with
  | nil =>
      rw [List.flatMap_nil, List.nil_append, readArms]
  | @cons first arm furtherLexemes furtherArms armReads _ inductionHypothesis =>
      have valueRead :=
        armReads.value
          (.mark .comma :: (furtherLexemes.flatMap armLexemes ++ .mark .closeBrace :: rest)) rfl
      have patternRead :=
        armReads.pattern
          (first.2 ++ .mark .comma ::
            (furtherLexemes.flatMap armLexemes ++ .mark .closeBrace :: rest))
      have shape :
          (first :: furtherLexemes).flatMap armLexemes ++ .mark .closeBrace :: rest =
            first.1 ++ .mark .thickArrow :: (first.2 ++ .mark .comma ::
              (furtherLexemes.flatMap armLexemes ++ .mark .closeBrace :: rest)) := by
        simp [armLexemes]
      rw [shape, readArms.eq_def]
      split
      · rename_i same
        rw [same, readPattern_closeBrace] at patternRead
        cases patternRead
      · have afterArrow :
            (first.2 ++ .mark .comma ::
                (furtherLexemes.flatMap armLexemes ++ .mark .closeBrace :: rest)).length <
              (first.1 ++ .mark .thickArrow :: (first.2 ++ .mark .comma ::
                (furtherLexemes.flatMap armLexemes ++ .mark .closeBrace :: rest))).length := by
          simp only [List.length_append, List.length_cons]
          omega
        have afterComma :
            (furtherLexemes.flatMap armLexemes ++ .mark .closeBrace :: rest).length <
              (first.1 ++ .mark .thickArrow :: (first.2 ++ .mark .comma ::
                (furtherLexemes.flatMap armLexemes ++ .mark .closeBrace :: rest))).length := by
          simp only [List.length_append, List.length_cons]
          omega
        simp [patternRead, expectMark, lessThan?_of_lt afterArrow, valueRead,
          lessThan?_of_lt afterComma, inductionHypothesis]

theorem readSelection_of_parts
    {given armsGiven rest : List Lexeme}
    {subject : Term}
    {arms : List (Pattern × Term)}
    (subjectRead :
      readLevel .guarded loosestLevel given = some (subject, .mark .openBrace :: armsGiven))
    (armsRead : readArms armsGiven = some (arms, rest))
    (noLonger : rest.length ≤ armsGiven.length) :
    readSelection given = some (.selection subject arms, rest) := by
  have armsShorter := Nat.lt_of_succ_lt (length_lt_of_readLevel subjectRead)
  rw [readSelection]
  simp [subjectRead, expectMark, lessThan?_of_lt armsShorter, armsRead,
    consuming_of_lt _ (Nat.lt_of_le_of_lt noLonger armsShorter)]

/-- A selection is a value. -/
theorem readsValue_selection
    {subjectLexemes : List Lexeme}
    {subject : Term}
    {lexemes : List (List Lexeme × List Lexeme)}
    {arms : List (Pattern × Term)}
    (subjectReads :
      ∀ rest, closesUnit .guarded rest →
        readNegation .guarded (subjectLexemes ++ rest) = some (subject, rest))
    (reads : List.Forall₂ ReadsArm lexemes arms) :
    ReadsValue (selectionLexemes subjectLexemes lexemes) (.selection subject arms) := by
  intro rest _
  have armsRead := readArms_of_readsArm reads rest
  have subjectRead :
      readLevel .guarded loosestLevel
          (subjectLexemes ++ .mark .openBrace ::
            (lexemes.flatMap armLexemes ++ .mark .closeBrace :: rest)) =
        some (subject, .mark .openBrace ::
          (lexemes.flatMap armLexemes ++ .mark .closeBrace :: rest)) :=
    readLevel_of_readNegation (subjectReads _ rfl) rfl
  have selectionRead := readSelection_of_parts subjectRead armsRead (by simp; omega)
  rw [selectionLexemes, List.cons_append, Generated.readValue]
  simpa using selectionRead

end Phrasebook.Generated
