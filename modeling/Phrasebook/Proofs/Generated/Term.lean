import Phrasebook.Plural.Token
import Phrasebook.Proofs.Generated.Lexeme

namespace Phrasebook.Generated

/-!
# Terms of generated code

The expressions that generated code is made of, and how they are read from lexemes. From loosest
to tightest: `||`, `&&`, comparisons, of which two cannot follow each other, `%`, prefix `!`, and
accesses with a dot. A conditional or a selection that leads a block or an arm is the whole value
of that block or arm. In a condition and in the subject of a selection a brace after a name opens
the block that follows.
-/

/-- The operators that stand between two operands. -/
inductive Operator where
  | remainder
  | less
  | lessEqual
  | greater
  | greaterEqual
  | equal
  | notEqual
  | both
  | either
  deriving Repr, DecidableEq

namespace Operator

/-- The operator that a mark is. -/
def ofMark? :
    Mark →
    Option Operator
  | .percent => some .remainder
  | .less => some .less
  | .lessEqual => some .lessEqual
  | .greater => some .greater
  | .greaterEqual => some .greaterEqual
  | .equal => some .equal
  | .notEqual => some .notEqual
  | .both => some .both
  | .either => some .either
  | _ => none

/-- The level at which an operator binds; the lowest level binds tightest. -/
def level :
    Operator →
    Nat
  | .remainder => 1
  | .both => 3
  | .either => 4
  | _ => 2

/-- Whether an operator may follow one of its own level. -/
def isChaining
    (operator : Operator) :
    Bool :=
  operator.level != 2

end Operator

/-- The level of the operator that binds loosest. -/
def loosestLevel :
    Nat :=
  4

/-- What an arm of a selection is chosen by. -/
inductive Pattern where
  | number (value : Nat)
  | path (segments : List String)
  | wildcard
  deriving Repr, DecidableEq

/-- The expressions of generated code. -/
inductive Term where
  | number (value : Int64)
  | literal (written : List Char)
  | receiver
  | path (segments : List String)
  | call (function : List String) (arguments : List Term)
  | invocation (name : String) (arguments : List Term)
  | field (record : Term) (name : String)
  | method (record : Term) (name : String) (arguments : List Term)
  | negation (operand : Term)
  | binary (operator : Operator) (left right : Term)
  | conditional (condition whenTrue whenFalse : Term)
  | selection (subject : Term) (arms : List (Pattern × Term))

/-- Where a term stands: where a brace after a name would belong to the name, or in a condition or
subject, where it opens a block. -/
inductive Position where
  | free
  | guarded
  deriving Repr, DecidableEq

/-- What is left after a certain mark. -/
def expectMark
    (mark : Mark) :
    List Lexeme →
    Option (List Lexeme)
  | [] => none
  | lexeme :: rest =>
      if lexeme = .mark mark then
        some rest
      else
        none

/-- What is left after a certain keyword. -/
def expectKeyword
    (keyword : Keyword) :
    List Lexeme →
    Option (List Lexeme)
  | [] => none
  | lexeme :: rest =>
      if lexeme = .keyword keyword then
        some rest
      else
        none

/-- The operator of a level at the front of some lexemes, and what is left after it. -/
def operatorAt?
    (level : Nat) :
    List Lexeme →
    Option (Operator × List Lexeme)
  | .mark mark :: rest =>
      match Operator.ofMark? mark with
      | some operator =>
          if operator.level = level then
            some (operator, rest)
          else
            none
      | none => none
  | _ => none

/-- The names of a path, of which those before the lexemes are given. -/
def readPath
    (segments : List String) :
    List Lexeme →
    List String × List Lexeme
  | .mark .pathSeparator :: .name name :: rest => readPath (segments ++ [name]) rest
  | given => (segments, given)

/-- The pattern at the front of some lexemes. A lone name would bind and is no pattern here. -/
def readPattern :
    List Lexeme →
    Option (Pattern × List Lexeme)
  | .keyword .wildcard :: rest => some (.wildcard, rest)
  | .number value :: rest => some (.number value, rest)
  | .name name :: .mark .pathSeparator :: rest =>
      match readPath [name] (.mark .pathSeparator :: rest) with
      | ([_], _) => none
      | (segments, rest) => some (.path segments, rest)
  | _ => none

/-- Following a path leaves no more lexemes than there were. -/
theorem length_readPath_le
    (segments : List String)
    (given : List Lexeme) :
    (readPath segments given).2.length ≤ given.length := by
  fun_induction readPath segments given with
  | case1 segments name rest inductionHypothesis =>
      simp only [List.length_cons]
      omega
  | case2 segments given =>
      exact Nat.le_refl _

/-- What is left over, if it is less than was given. A reader goes on only with less, so reading
ends. -/
def lessThan?
    (given rest : List Lexeme) :
    Option { less : List Lexeme // less.length < given.length } :=
  if shorter : rest.length < given.length then
    some ⟨rest, shorter⟩
  else
    none

/-- What was found in front of what is left over, if that is less than was given. -/
def consuming
    {α : Type}
    (given : List Lexeme)
    (found : Option (α × List Lexeme)) :
    Option (α × List Lexeme) :=
  found.filter fun taken => taken.2.length < given.length

mutual

/-- Reads a chain of operators of a level; the chain of level zero is a negation or tighter. -/
def readLevel
    (position : Position)
    (level : Nat)
    (given : List Lexeme) :
    Option (Term × List Lexeme) :=
  match level with
  | 0 => consuming given (readNegation position given)
  | tighter + 1 =>
      consuming given do
        let (left, rest) ← readLevel position tighter given
        let ⟨rest, _⟩ ← lessThan? given rest
        continueLevel position tighter left rest
  termination_by (given.length, level + 3)

/-- Goes on with a chain whose operands are chains of level `tighter`. -/
def continueLevel
    (position : Position)
    (tighter : Nat)
    (left : Term)
    (given : List Lexeme) :
    Option (Term × List Lexeme) :=
  match operatorAt? (tighter + 1) given with
  | none => some (left, given)
  | some (operator, afterOperator) => do
      let ⟨afterOperator, _⟩ ← lessThan? given afterOperator
      let (right, rest) ← readLevel position tighter afterOperator
      let ⟨rest, _⟩ ← lessThan? given rest
      if operator.isChaining then
        continueLevel position tighter (.binary operator left right) rest
      else if (operatorAt? (tighter + 1) rest).isSome then
        none
      else
        some (.binary operator left right, rest)
  termination_by (given.length, 0)

/-- Reads a negation, or a term and the accesses to it. -/
def readNegation
    (position : Position)
    (given : List Lexeme) :
    Option (Term × List Lexeme) :=
  match given with
  | .mark .bang :: rest =>
      consuming rest do
        let (operand, rest) ← readNegation position rest
        some (.negation operand, rest)
  | given =>
      consuming given do
        let (base, rest) ← readPrimary position given
        let ⟨rest, _⟩ ← lessThan? given rest
        continueAccess base rest
  termination_by (given.length, 2)

/-- Goes on with accesses to a field or a method. -/
def continueAccess
    (base : Term)
    (given : List Lexeme) :
    Option (Term × List Lexeme) :=
  match given with
  | .mark .dot :: .name name :: .mark .openParenthesis :: inside => do
      let (arguments, rest) ← readArguments inside
      let ⟨rest, _⟩ ← lessThan? inside rest
      continueAccess (.method base name arguments) rest
  | .mark .dot :: .name name :: rest => continueAccess (.field base name) rest
  | .mark .dot :: _ => none
  | .mark .openParenthesis :: _ => none
  | given => some (base, given)
  termination_by (given.length, 0)

/-- Reads a term without operators and accesses. -/
def readPrimary
    (position : Position)
    (given : List Lexeme) :
    Option (Term × List Lexeme) :=
  match given with
  | .number value :: rest =>
      if value ≤ Plural.largestLiteral then
        some (.number (Int64.ofNat value), rest)
      else
        none
  | .literal written :: rest => some (.literal written, rest)
  | .keyword .receiver :: rest => some (.receiver, rest)
  | .name name :: .mark .bang :: .mark .openParenthesis :: rest => do
      let (arguments, rest) ← readArguments rest
      some (.invocation name arguments, rest)
  | .name name :: rest => readNamed position (readPath [name] rest)
  | .mark .openParenthesis :: rest => do
      let (inner, rest) ← readLevel .free loosestLevel rest
      let rest ← expectMark .closeParenthesis rest
      some (inner, rest)
  | .keyword .conditional :: rest => readConditional rest
  | .keyword .selection :: rest => readSelection rest
  | _ => none
  termination_by (given.length, 1)
  decreasing_by
    all_goals simp only [Prod.lex_def, List.length_cons]
    all_goals try omega
    exact .inl (Nat.lt_succ_of_le (length_readPath_le _ _))

/-- Reads what a path is the start of. -/
def readNamed
    (position : Position)
    (given : List String × List Lexeme) :
    Option (Term × List Lexeme) :=
  match given with
  | (segments, .mark .openParenthesis :: rest) => do
      let (arguments, rest) ← readArguments rest
      some (.call segments arguments, rest)
  | (segments, .mark .openBrace :: rest) =>
      match position with
      | .free => none
      | .guarded => some (.path segments, .mark .openBrace :: rest)
  | (segments, rest) => some (.path segments, rest)
  termination_by (given.2.length, 0)

/-- Reads the arguments of a call after its opening parenthesis. -/
def readArguments
    (given : List Lexeme) :
    Option (List Term × List Lexeme) :=
  match given with
  | .mark .closeParenthesis :: rest => some ([], rest)
  | given =>
      consuming given do
        let (first, rest) ← readLevel .free loosestLevel given
        match rest with
        | .mark .closeParenthesis :: rest => some ([first], rest)
        | .mark .comma :: rest => do
            let ⟨rest, _⟩ ← lessThan? given rest
            let (others, rest) ← readArguments rest
            some (first :: others, rest)
        | _ => none
  termination_by (given.length, loosestLevel + 4)

/-- Reads the value of a block or an arm. -/
def readValue
    (given : List Lexeme) :
    Option (Term × List Lexeme) :=
  match given with
  | .keyword .conditional :: rest => readConditional rest
  | .keyword .selection :: rest => readSelection rest
  | given => readLevel .free loosestLevel given
  termination_by (given.length, loosestLevel + 4)

/-- Reads a block between braces. -/
def readBlock
    (given : List Lexeme) :
    Option (Term × List Lexeme) := do
  let rest ← expectMark .openBrace given
  let ⟨rest, _⟩ ← lessThan? given rest
  let (value, rest) ← readValue rest
  let rest ← expectMark .closeBrace rest
  some (value, rest)
  termination_by (given.length, 0)

/-- Reads a conditional after its keyword. -/
def readConditional
    (given : List Lexeme) :
    Option (Term × List Lexeme) :=
  consuming given do
    let (condition, rest) ← readLevel .guarded loosestLevel given
    let ⟨rest, _⟩ ← lessThan? given rest
    let (whenTrue, rest) ← readBlock rest
    let rest ← expectKeyword .alternative rest
    let ⟨rest, _⟩ ← lessThan? given rest
    let (whenFalse, rest) ← readBlock rest
    some (.conditional condition whenTrue whenFalse, rest)
  termination_by (given.length, loosestLevel + 4)

/-- Reads a selection after its keyword. -/
def readSelection
    (given : List Lexeme) :
    Option (Term × List Lexeme) :=
  consuming given do
    let (subject, rest) ← readLevel .guarded loosestLevel given
    let rest ← expectMark .openBrace rest
    let ⟨rest, _⟩ ← lessThan? given rest
    let (arms, rest) ← readArms rest
    some (.selection subject arms, rest)
  termination_by (given.length, loosestLevel + 4)

/-- Reads the arms of a selection, each of which ends with a comma. -/
def readArms
    (given : List Lexeme) :
    Option (List (Pattern × Term) × List Lexeme) :=
  match given with
  | .mark .closeBrace :: rest => some ([], rest)
  | given => do
      let (pattern, rest) ← readPattern given
      let rest ← expectMark .thickArrow rest
      let ⟨rest, _⟩ ← lessThan? given rest
      let (value, rest) ← readValue rest
      let rest ← expectMark .comma rest
      let ⟨rest, _⟩ ← lessThan? given rest
      let (arms, rest) ← readArms rest
      some ((pattern, value) :: arms, rest)
  termination_by (given.length, 0)

end

/-- What has been read, if nothing is left. -/
def whole
    (found : Term × List Lexeme) :
    Option Term :=
  if found.2.isEmpty then
    some found.1
  else
    none

namespace Term

/-- The term that a text is. -/
def read
    (text : String) :
    Option Term := do
  let lexemes ← lexemes? text.toList
  let found ← readLevel .free loosestLevel lexemes
  whole found

/-- The value of the block that a text is the inside of. -/
def readInside
    (text : String) :
    Option Term := do
  let lexemes ← lexemes? text.toList
  let found ← readValue lexemes
  whole found

end Term

end Phrasebook.Generated
