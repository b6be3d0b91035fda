import Phrasebook.Plural.Token

namespace Phrasebook.Plural

/-!
# Reading plural expressions

From loosest to tightest: a conditional, which nests to the right; the five levels of binary
operators, each of which nests to the left; prefix negation; and literals, names and parenthesized
expressions. Each step answers with the tokens that it left over, which are fewer than it was
given, so reading ends.
-/

/-- What was expected at the first token that does not fit, and the tokens from there on. -/
structure Mismatch where
  expectation : Expectation
  remaining : List Token
  deriving Repr, DecidableEq

/-- An expression read from the front of some tokens, with fewer tokens left over. -/
abbrev Reading
    (given : List Token) :
    Type :=
  Except Mismatch (Expression × { rest : List Token // rest.length < given.length })

/-- An expression that goes on as long as operators follow, with no more tokens left over. -/
abbrev Continuation
    (given : List Token) :
    Type :=
  Except Mismatch (Expression × { rest : List Token // rest.length ≤ given.length })

/-- Takes one symbol from the front of some tokens. -/
def expectSymbol
    (symbol : Symbol)
    (given : List Token) :
    Except Mismatch { rest : List Token // rest.length < given.length } :=
  match given with
  | [] => .error ⟨.symbol symbol, []⟩
  | token :: rest =>
      if token.lexeme = .mark symbol then
        .ok ⟨rest, by simp⟩
      else
        .error ⟨.symbol symbol, token :: rest⟩

/-- The binary operator of a level at the front of some tokens. -/
def operatorAt?
    (level : Nat) :
    List Token →
    Option BinaryOperator
  | ⟨.mark (.binary operator), _⟩ :: _ =>
      if operator.level = level then
        some operator
      else
        none
  | _ => none

mutual

/-- Reads a conditional, or a chain of the loosest operators. -/
def readConditional
    (given : List Token) :
    Reading given :=
  match readChain loosestLevel given with
  | .error mismatch => .error mismatch
  | .ok (condition, ⟨rest, shorter⟩) =>
      match rest with
      | ⟨.mark .question, _⟩ :: afterQuestion =>
          have shorterQuestion : afterQuestion.length < given.length := by
            simp only [List.length_cons] at shorter
            omega
          match readConditional afterQuestion with
          | .error mismatch => .error mismatch
          | .ok (whenTrue, ⟨beforeColon, shorterColon⟩) =>
              match expectSymbol .colon beforeColon with
              | .error mismatch => .error mismatch
              | .ok ⟨afterColon, shorterAfter⟩ =>
                  match readConditional afterColon with
                  | .error mismatch => .error mismatch
                  | .ok (whenFalse, ⟨remaining, shorterRemaining⟩) =>
                      .ok (.conditional condition.offset condition whenTrue whenFalse,
                        ⟨remaining, by omega⟩)
      | rest => .ok (condition, ⟨rest, shorter⟩)
  termination_by (given.length, loosestLevel + 2)

/-- Reads a chain of operators of a level; the chain of level zero is a negation or tighter. -/
def readChain
    (level : Nat)
    (given : List Token) :
    Reading given :=
  match level with
  | 0 => readNegation given
  | tighter + 1 =>
      match readChain tighter given with
      | .error mismatch => .error mismatch
      | .ok (left, ⟨rest, shorter⟩) =>
          match continueChain tighter left rest with
          | .error mismatch => .error mismatch
          | .ok (chain, ⟨remaining, noLonger⟩) =>
              .ok (chain, ⟨remaining, by omega⟩)
  termination_by (given.length, level + 1)

/-- Goes on with a chain whose operands are chains of level `tighter`. -/
def continueChain
    (tighter : Nat)
    (left : Expression)
    (given : List Token) :
    Continuation given :=
  match operatorAt? (tighter + 1) given with
  | none => .ok (left, ⟨given, Nat.le_refl _⟩)
  | some operator =>
      match given with
      | [] => .ok (left, ⟨[], Nat.le_refl _⟩)
      | _ :: afterOperator =>
          match readChain tighter afterOperator with
          | .error mismatch => .error mismatch
          | .ok (right, ⟨rest, shorter⟩) =>
              match continueChain tighter
                  (.binary left.offset operator left right) rest with
              | .error mismatch => .error mismatch
              | .ok (chain, ⟨remaining, noLonger⟩) =>
                  .ok (chain, ⟨remaining, by
                    simp only [List.length_cons]
                    omega⟩)
  termination_by (given.length, tighter + 1)

/-- Reads a negation, or a literal, a name or a parenthesized expression. -/
def readNegation
    (given : List Token) :
    Reading given :=
  match given with
  | ⟨.mark .not, offset⟩ :: rest =>
      match readNegation rest with
      | .error mismatch => .error mismatch
      | .ok (operand, ⟨remaining, shorter⟩) =>
          .ok (.negation offset operand, ⟨remaining, by
            simp only [List.length_cons]
            omega⟩)
  | ⟨.mark .openParenthesis, _⟩ :: rest =>
      match readConditional rest with
      | .error mismatch => .error mismatch
      | .ok (inner, ⟨beforeClose, shorter⟩) =>
          match expectSymbol .closeParenthesis beforeClose with
          | .error mismatch => .error mismatch
          | .ok ⟨remaining, shorterRemaining⟩ =>
              .ok (inner, ⟨remaining, by
                simp only [List.length_cons]
                omega⟩)
  | ⟨.number value, offset⟩ :: rest => .ok (.literal offset value, ⟨rest, by simp⟩)
  | ⟨.name name, offset⟩ :: rest => .ok (.variable offset name, ⟨rest, by simp⟩)
  | given => .error ⟨.expression, given⟩
  termination_by (given.length, 0)

end

/-- The error of a mismatch in a source text of some length. -/
def Mismatch.error
    (mismatch : Mismatch)
    (sourceLength : Nat) :
    ReadError :=
  match mismatch.remaining with
  | [] => ⟨sourceLength, .mismatch mismatch.expectation none⟩
  | token :: _ => ⟨token.offset, .mismatch mismatch.expectation (some token.lexeme)⟩

/-- Reads tokens that are one expression and nothing more. -/
def readWhole
    (given : List Token) :
    Except Mismatch Expression :=
  match readConditional given with
  | .error mismatch => .error mismatch
  | .ok (expression, ⟨[], _⟩) => .ok expression
  | .ok (_, ⟨token :: rest, _⟩) => .error ⟨.finish, token :: rest⟩

/-- The plural expression that a source text is. -/
def Expression.read
    (source : String) :
    Except ReadError Expression :=
  match tokens source.toList with
  | .error error => .error error
  | .ok found =>
      match readWhole found with
      | .error mismatch => .error (mismatch.error source.toList.length)
      | .ok expression => .ok expression

end Phrasebook.Plural
