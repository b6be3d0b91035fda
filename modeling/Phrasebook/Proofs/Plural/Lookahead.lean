import Phrasebook.Proofs.Plural.GrammarCompleteness
import Phrasebook.Proofs.Plural.Spacing

namespace Phrasebook.Plural

/-!
# How far a reader looks ahead

A reader sees the tokens that it takes and, of those that it leaves over, the first one only. So
where reading is refused at a token, nothing that comes after that token can make it succeed.
-/

/-! ## Outcomes -/

/-- What a reader makes of some tokens: a value and the tokens left over, or a mismatch. -/
abbrev Outcome
    (α : Type) :
    Type :=
  Except Mismatch (α × List Token)

namespace Outcome

variable {α β : Type}

/-- The tokens that an outcome leaves over. -/
def leftOver :
    Outcome α →
    List Token
  | .ok (_, rest) => rest
  | .error mismatch => mismatch.remaining

/-- An outcome that leaves other tokens over. -/
def leaving
    (other : List Token) :
    Outcome α →
    Outcome α
  | .ok (value, _) => .ok (value, other)
  | .error mismatch => .error ⟨mismatch.expectation, other⟩

/-- Goes on with the tokens that are left over. -/
def andThen
    (first : Outcome α)
    (second : α → List Token → Outcome β) :
    Outcome β :=
  match first with
  | .ok (value, rest) => second value rest
  | .error mismatch => .error mismatch

end Outcome

/-- Whether a reader looks no further into some tokens than to the first one that it leaves over. -/
def LooksOneAhead
    {α : Type}
    (reader : List Token → Outcome α)
    (given : List Token) :
    Prop :=
  ∃ taken,
    given = taken ++ (reader given).leftOver ∧
      ∀ other,
        other.head? = (reader given).leftOver.head? →
        reader (taken ++ other) = (reader given).leaving other

namespace LooksOneAhead

variable {α β : Type}

/-- A reader that takes nothing and asks for the next token only. -/
theorem stop
    {reader : List Token → Outcome α}
    {given : List Token}
    (takesNothing : (reader given).leftOver = given)
    (sameNext : ∀ other, other.head? = given.head? → reader other = (reader given).leaving other) :
    LooksOneAhead reader given := by
  refine ⟨[], takesNothing.symm, fun other same => ?_⟩
  rw [takesNothing] at same
  exact sameNext other same

/-- A reader that takes a token and leaves the others to another reader. -/
theorem take
    {reader inner : List Token → Outcome α}
    {token : Token}
    {rest : List Token}
    (takes : ∀ other, reader (token :: other) = inner other)
    (looks : LooksOneAhead inner rest) :
    LooksOneAhead reader (token :: rest) := by
  obtain ⟨taken, shape, sameNext⟩ := looks
  rw [LooksOneAhead, takes]
  refine ⟨token :: taken, congrArg (token :: ·) shape, fun other same => ?_⟩
  rw [List.cons_append, takes]
  exact sameNext other same

/-- A reader that takes a token and nothing else. -/
theorem takeOne
    {reader : List Token → Outcome α}
    {token : Token}
    {rest : List Token}
    (value : α)
    (takes : ∀ other, reader (token :: other) = .ok (value, other)) :
    LooksOneAhead reader (token :: rest) :=
  take takes (stop rfl fun _ _ => rfl)

/-- A reader after another one. -/
theorem andThen
    {first : List Token → Outcome α}
    {second : α → List Token → Outcome β}
    {given : List Token}
    (looksFirst : LooksOneAhead first given)
    (looksSecond : ∀ value rest, first given = .ok (value, rest) → LooksOneAhead (second value) rest) :
    LooksOneAhead (fun tokens => (first tokens).andThen second) given := by
  obtain ⟨taken, shape, sameNext⟩ := looksFirst
  cases found : first given with
  | error mismatch =>
      have whole : (first given).andThen second = .error mismatch := by rw [found]; rfl
      rw [found] at shape sameNext
      rw [LooksOneAhead, whole]
      refine ⟨taken, shape, fun other same => ?_⟩
      rw [sameNext other same]
      rfl
  | ok reading =>
      obtain ⟨value, rest⟩ := reading
      have whole : (first given).andThen second = second value rest := by rw [found]; rfl
      obtain ⟨further, furtherShape, furtherNext⟩ := looksSecond value rest found
      rw [found] at shape sameNext
      rw [LooksOneAhead, whole]
      refine ⟨taken ++ further, ?_, fun other same => ?_⟩
      · rw [List.append_assoc, ← furtherShape]
        exact shape
      · -- The first reader looks at what the second one takes, or at the next token if that is
        -- nothing.
        have next : (further ++ other).head? = rest.head? := by
          rw [furtherShape, List.head?_append, List.head?_append, same]
        rw [List.append_assoc, sameNext _ next]
        exact furtherNext other same

end LooksOneAhead

/-! ## The readers of expressions -/

/-- The outcome of a reading, without what is known of the number of tokens left over. -/
def plainly
    {fewer : List Token → Prop}
    (reading : Except Mismatch (Expression × { rest : List Token // fewer rest })) :
    Outcome Expression :=
  match reading with
  | .ok (expression, rest) => .ok (expression, rest.val)
  | .error mismatch => .error mismatch

theorem fewer_of_plainly
    {fewer : List Token → Prop}
    {reading : Except Mismatch (Expression × { rest : List Token // fewer rest })}
    {expression : Expression}
    {rest : List Token}
    (found : plainly reading = .ok (expression, rest)) :
    fewer rest := by
  unfold plainly at found
  split at found
  · cases found
    exact Subtype.property _
  · cases found

/-- Takes one symbol. -/
def symbolPlainly
    (symbol : Symbol)
    (given : List Token) :
    Outcome Unit :=
  match expectSymbol symbol given with
  | .ok rest => .ok ((), rest.val)
  | .error mismatch => .error mismatch

theorem shorter_of_symbolPlainly
    {symbol : Symbol}
    {given rest : List Token}
    (taken : symbolPlainly symbol given = .ok ((), rest)) :
    rest.length < given.length := by
  unfold symbolPlainly at taken
  split at taken
  · rename_i found _
    cases taken
    exact found.property
  · cases taken

theorem looksOneAhead_symbol
    (symbol : Symbol)
    (given : List Token) :
    LooksOneAhead (symbolPlainly symbol) given := by
  cases given with
  | nil =>
      refine .stop rfl fun other same => ?_
      rw [List.head?_nil, List.head?_eq_none_iff] at same
      rw [same]
      rfl
  | cons token rest =>
      by_cases matched : token.lexeme = .mark symbol
      · refine .takeOne () fun other => ?_
        simp [symbolPlainly, expectSymbol, matched]
      · have refused (other : List Token) :
            symbolPlainly symbol (token :: other) = .error ⟨.symbol symbol, token :: other⟩ := by
          simp [symbolPlainly, expectSymbol, matched]
        refine .stop (by rw [refused]; rfl) fun other same => ?_
        obtain ⟨further, rfl⟩ := List.head?_eq_some_iff.mp same
        rw [refused, refused]
        rfl

/-- Goes on after a condition. -/
def afterCondition
    (condition : Expression) :
    List Token →
    Outcome Expression
  | ⟨.mark .question, _⟩ :: afterQuestion =>
      (plainly (readConditional afterQuestion)).andThen fun whenTrue beforeColon =>
        (symbolPlainly .colon beforeColon).andThen fun _ afterColon =>
          (plainly (readConditional afterColon)).andThen fun whenFalse rest =>
            .ok (.conditional condition.offset condition whenTrue whenFalse, rest)
  | rest => .ok (condition, rest)

theorem plainly_readConditional
    (given : List Token) :
    plainly (readConditional given) =
      (plainly (readChain loosestLevel given)).andThen afterCondition := by
  rw [readConditional]
  rcases readChain loosestLevel given with mismatch | ⟨condition, rest, shorter⟩
  · rfl
  · change plainly _ = afterCondition condition rest
    fun_cases afterCondition condition rest with
    | case1 question afterQuestion =>
        simp only
        rcases readConditional afterQuestion with mismatch | ⟨whenTrue, beforeColon, shorterColon⟩
        · rfl
        · simp only [plainly, Outcome.andThen, symbolPlainly]
          rcases expectSymbol .colon beforeColon with mismatch | ⟨afterColon, shorterAfter⟩
          · rfl
          · simp only
            rcases readConditional afterColon with mismatch | ⟨whenFalse, remaining, noLonger⟩
            · rfl
            · rfl
    | case2 =>
        rename_i noQuestion
        simp only
        split
        · exact absurd rfl (noQuestion _ _)
        · rfl

theorem plainly_readChain_zero
    (given : List Token) :
    plainly (readChain 0 given) = plainly (readNegation given) := by
  rw [readChain]

theorem plainly_readChain_succ
    (tighter : Nat)
    (given : List Token) :
    plainly (readChain (tighter + 1) given) =
      (plainly (readChain tighter given)).andThen fun left rest =>
        plainly (continueChain tighter left rest) := by
  rw [readChain]
  rcases readChain tighter given with mismatch | ⟨left, rest, shorter⟩
  · rfl
  · simp only [plainly, Outcome.andThen]
    rcases continueChain tighter left rest with mismatch | ⟨chain, remaining, noLonger⟩
    · rfl
    · rfl

theorem plainly_continueChain_of_none
    {tighter : Nat}
    {given : List Token}
    (left : Expression)
    (noOperator : operatorAt? (tighter + 1) given = none) :
    plainly (continueChain tighter left given) = .ok (left, given) := by
  rw [continueChain, noOperator]
  rfl

theorem plainly_continueChain_of_some
    {tighter offset : Nat}
    {operator : BinaryOperator}
    {rest : List Token}
    (left : Expression)
    (atLevel : operator.level = tighter + 1) :
    plainly (continueChain tighter left (⟨.mark (.binary operator), offset⟩ :: rest)) =
      (plainly (readChain tighter rest)).andThen fun right remaining =>
        plainly (continueChain tighter (.binary left.offset operator left right) remaining) := by
  have found := operatorAt?_operator operator offset rest
  rw [atLevel] at found
  rw [continueChain, found]
  simp only
  rcases readChain tighter rest with mismatch | ⟨right, remaining, shorter⟩
  · rfl
  · simp only [plainly, Outcome.andThen]
    rcases continueChain tighter (.binary left.offset operator left right) remaining with
      mismatch | ⟨chain, final, noLonger⟩
    · rfl
    · rfl

theorem plainly_readNegation_not
    (offset : Nat)
    (rest : List Token) :
    plainly (readNegation (⟨.mark .not, offset⟩ :: rest)) =
      (plainly (readNegation rest)).andThen fun operand remaining =>
        .ok (.negation offset operand, remaining) := by
  rw [readNegation]
  rcases readNegation rest with mismatch | ⟨operand, remaining, shorter⟩
  · rfl
  · rfl

theorem plainly_readNegation_parenthesis
    (offset : Nat)
    (rest : List Token) :
    plainly (readNegation (⟨.mark .openParenthesis, offset⟩ :: rest)) =
      (plainly (readConditional rest)).andThen fun inner beforeClose =>
        (symbolPlainly .closeParenthesis beforeClose).andThen fun _ remaining =>
          .ok (inner, remaining) := by
  rw [readNegation]
  rcases readConditional rest with mismatch | ⟨inner, beforeClose, shorter⟩
  · rfl
  · simp only [plainly, Outcome.andThen, symbolPlainly]
    rcases expectSymbol .closeParenthesis beforeClose with mismatch | ⟨remaining, shorterRemaining⟩
    · rfl
    · rfl

/-! ## One token ahead -/

theorem operatorAt?_congr
    {first second : List Token}
    (same : first.head? = second.head?)
    (level : Nat) :
    operatorAt? level first = operatorAt? level second := by
  cases first with
  | nil =>
      rw [List.head?_nil, eq_comm, List.head?_eq_none_iff] at same
      rw [same]
  | cons token rest =>
      obtain ⟨other, rfl⟩ := List.head?_eq_some_iff.mp same.symm
      obtain ⟨lexeme, offset⟩ := token
      cases lexeme with
      | mark symbol =>
          cases symbol <;> rfl
      | _ =>
          rfl

/-- A reader that is done with an expression at the next token. -/
theorem LooksOneAhead.stay
    {reader : List Token → Outcome Expression}
    {given : List Token}
    (expression : Expression)
    (stays : ∀ other, other.head? = given.head? → reader other = .ok (expression, other)) :
    LooksOneAhead reader given := by
  have found := stays given rfl
  refine .stop (by rw [found]; rfl) fun other same => ?_
  rw [stays other same, found]
  rfl

theorem afterCondition_of_noQuestion
    {rest : List Token}
    (condition : Expression)
    (noQuestion : ∀ token ∈ rest.head?, token.lexeme ≠ .mark .question) :
    afterCondition condition rest = .ok (condition, rest) := by
  fun_cases afterCondition condition rest with
  | case1 offset afterQuestion =>
      exact absurd rfl (noQuestion _ rfl)
  | case2 =>
      rfl

theorem readNegation_of_noStart
    {given : List Token}
    (noStart : ∀ token ∈ given.head?, token.lexeme.startsOperand = false) :
    readNegation given = .error ⟨.expression, given⟩ := by
  rw [readNegation.eq_def]
  split
  case h_5 =>
    rfl
  all_goals
    have starts := noStart _ rfl
    cases starts

theorem looksOneAhead_of_noStart
    {given : List Token}
    (noStart : ∀ token ∈ given.head?, token.lexeme.startsOperand = false) :
    LooksOneAhead (fun tokens => plainly (readNegation tokens)) given := by
  have refused {other : List Token} (same : other.head? = given.head?) :
      plainly (readNegation other) = .error ⟨.expression, other⟩ := by
    rw [readNegation_of_noStart (same ▸ noStart)]
    rfl
  refine .stop (by rw [refused rfl]; rfl) fun other same => ?_
  rw [refused same, refused rfl]
  rfl

mutual

theorem looksOneAhead_readConditional
    (given : List Token) :
    LooksOneAhead (fun tokens => plainly (readConditional tokens)) given := by
  rw [funext plainly_readConditional]
  refine (looksOneAhead_readChain loosestLevel given).andThen fun condition rest found => ?_
  by_cases noQuestion : ∀ token ∈ rest.head?, token.lexeme ≠ .mark .question
  · refine .stay condition fun other same => ?_
    exact afterCondition_of_noQuestion condition (same ▸ noQuestion)
  · push Not at noQuestion
    obtain ⟨⟨_, offset⟩, isFirst, rfl⟩ := noQuestion
    obtain ⟨afterQuestion, rfl⟩ := List.head?_eq_some_iff.mp isFirst
    have shorterQuestion : afterQuestion.length < given.length :=
      Nat.lt_of_succ_lt (fewer_of_plainly found)
    refine .take (fun _ => rfl) ?_
    refine (looksOneAhead_readConditional afterQuestion).andThen
      fun whenTrue beforeColon trueFound => ?_
    have shorterColon := fewer_of_plainly trueFound
    refine (looksOneAhead_symbol .colon beforeColon).andThen fun _ afterColon colonFound => ?_
    have shorterAfter := shorter_of_symbolPlainly colonFound
    refine (looksOneAhead_readConditional afterColon).andThen fun whenFalse remaining _ => ?_
    exact .stay _ fun _ _ => rfl
  termination_by (given.length, loosestLevel + 2)

theorem looksOneAhead_readChain
    (level : Nat)
    (given : List Token) :
    LooksOneAhead (fun tokens => plainly (readChain level tokens)) given := by
  cases level with
  | zero =>
      rw [funext plainly_readChain_zero]
      exact looksOneAhead_readNegation given
  | succ tighter =>
      rw [funext (plainly_readChain_succ tighter)]
      refine (looksOneAhead_readChain tighter given).andThen fun left rest found => ?_
      have shorter := fewer_of_plainly found
      exact looksOneAhead_continueChain tighter left rest
  termination_by (given.length, level + 1)

theorem looksOneAhead_continueChain
    (tighter : Nat)
    (left : Expression)
    (given : List Token) :
    LooksOneAhead (fun tokens => plainly (continueChain tighter left tokens)) given := by
  cases found : operatorAt? (tighter + 1) given with
  | none =>
      refine .stay left fun other same => ?_
      rw [plainly_continueChain_of_none left ((operatorAt?_congr same _).trans found)]
  | some operator =>
      obtain ⟨atLevel, offset, rest, shape⟩ := operatorAt?_eq_some found
      have shorterRest : rest.length < given.length := by simp [shape]
      rw [shape]
      refine .take (fun _ => plainly_continueChain_of_some left atLevel) ?_
      refine (looksOneAhead_readChain tighter rest).andThen fun right remaining rightFound => ?_
      have shorter := fewer_of_plainly rightFound
      exact looksOneAhead_continueChain tighter _ remaining
  termination_by (given.length, tighter + 1)

theorem looksOneAhead_readNegation
    (given : List Token) :
    LooksOneAhead (fun tokens => plainly (readNegation tokens)) given := by
  rcases given with _ | ⟨⟨lexeme, offset⟩, rest⟩
  · exact looksOneAhead_of_noStart (by simp)
  · cases lexeme with
    | number value =>
        refine .takeOne (.literal offset value) fun other => ?_
        rw [readNegation]
        rfl
    | name name =>
        refine .takeOne (.variable offset name) fun other => ?_
        rw [readNegation]
        rfl
    | mark symbol =>
        cases symbol with
        | not =>
            refine .take (plainly_readNegation_not offset) ?_
            refine (looksOneAhead_readNegation rest).andThen fun operand remaining _ => ?_
            exact .stay _ fun _ _ => rfl
        | openParenthesis =>
            refine .take (plainly_readNegation_parenthesis offset) ?_
            refine (looksOneAhead_readConditional rest).andThen fun inner beforeClose _ => ?_
            refine (looksOneAhead_symbol .closeParenthesis beforeClose).andThen
              fun _ remaining _ => ?_
            exact .stay _ fun _ _ => rfl
        | _ =>
            exact looksOneAhead_of_noStart (by simp [Lexeme.startsOperand])
  termination_by (given.length, 0)

end

/-- The expression of an outcome that leaves nothing over. -/
def whole :
    Outcome Expression →
    Except Mismatch Expression
  | .ok (expression, []) => .ok expression
  | .ok (_, token :: rest) => .error ⟨.finish, token :: rest⟩
  | .error mismatch => .error mismatch

theorem readWhole_eq_whole
    (given : List Token) :
    readWhole given = whole (plainly (readConditional given)) := by
  unfold readWhole
  rcases readConditional given with mismatch | ⟨expression, rest, shorter⟩
  · rfl
  · cases rest <;> rfl

theorem leftOver_of_whole
    {outcome : Outcome Expression}
    {mismatch : Mismatch}
    (refused : whole outcome = .error mismatch) :
    outcome.leftOver = mismatch.remaining := by
  fun_cases whole outcome with
  | case1 expression =>
      cases refused
  | case2 expression token rest =>
      cases refused
      rfl
  | case3 other =>
      cases refused
      rfl

theorem whole_leaving
    {outcome : Outcome Expression}
    {mismatch : Mismatch}
    {other : List Token}
    (refused : whole outcome = .error mismatch)
    (same : other.head? = mismatch.remaining.head?) :
    whole (outcome.leaving other) = .error ⟨mismatch.expectation, other⟩ := by
  fun_cases whole outcome with
  | case1 expression =>
      cases refused
  | case2 expression token rest =>
      cases refused
      obtain ⟨further, rfl⟩ := List.head?_eq_some_iff.mp same
      rfl
  | case3 found =>
      cases refused
      rfl

/-- Tokens that are not a whole expression are none whatever follows the first token that does not
fit. -/
theorem readWhole_of_sameNext
    {given : List Token}
    {mismatch : Mismatch}
    (refused : readWhole given = .error mismatch) :
    ∃ taken,
      given = taken ++ mismatch.remaining ∧
        ∀ other,
          other.head? = mismatch.remaining.head? →
          readWhole (taken ++ other) = .error ⟨mismatch.expectation, other⟩ := by
  obtain ⟨taken, shape, sameNext⟩ := looksOneAhead_readConditional given
  rw [readWhole_eq_whole] at refused
  rw [leftOver_of_whole refused] at shape sameNext
  refine ⟨taken, shape, fun other same => ?_⟩
  have next : plainly (readConditional (taken ++ other)) = _ := sameNext other same
  rw [readWhole_eq_whole, next]
  exact whole_leaving refused same

end Phrasebook.Plural
