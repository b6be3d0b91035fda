import Phrasebook.Proofs.Plural.Layout
import Phrasebook.Proofs.Plural.ViablePrefix

namespace Phrasebook.Plural

/-!
# Where a faulty expression is refused

A source text that is no expression is refused at the earliest place that shows it: where no token
starts or, if tokens can be found in all of it, at the first token with which the tokens up to it
begin no expression any more. Tokens that only lack something are refused at the end of the text.
-/

/-! ## Lexemes of accepted texts -/

/-- Whether some tokens are, but for their offsets, the first ones of a text that is read as an
expression. -/
def BeginsExpression
    (begun : List Token) :
    Prop :=
  ∃ source expression found,
    Expression.read source = .ok expression ∧
      tokens source.toList = .ok found ∧
      begun.map Token.lexeme <+: found.map Token.lexeme

/-- Whether some tokens are, but for their offsets, all those of a text that is read as an
expression. -/
def IsWholeExpression
    (given : List Token) :
    Prop :=
  ∃ source expression found,
    Expression.read source = .ok expression ∧
      tokens source.toList = .ok found ∧
      found.map Token.lexeme = given.map Token.lexeme

theorem BeginsExpression.of_isPrefix
    {first begun : List Token}
    (starts : first <+: begun)
    (begins : BeginsExpression begun) :
    BeginsExpression first := by
  obtain ⟨source, expression, found, read, lexed, isPrefix⟩ := begins
  exact ⟨source, expression, found, read, lexed, (starts.map Token.lexeme).trans isPrefix⟩

/-- A phrase stays one if the offsets of its tokens change. -/
theorem Phrase.relabel
    {level : Nat}
    {tokens others : List Token}
    {expression : Expression}
    (phrase : Phrase level tokens expression)
    (same : others.map Token.lexeme = tokens.map Token.lexeme) :
    ∃ relabelled, Phrase level others relabelled := by
  induction phrase generalizing others with
  | number offset value =>
      obtain ⟨⟨lexeme, place⟩, rest, rfl, rfl, nothing⟩ := List.map_eq_cons_iff.mp same
      rw [List.map_eq_nil_iff.mp nothing]
      exact ⟨_, .number place value⟩
  | name offset name =>
      obtain ⟨⟨lexeme, place⟩, rest, rfl, rfl, nothing⟩ := List.map_eq_cons_iff.mp same
      rw [List.map_eq_nil_iff.mp nothing]
      exact ⟨_, .name place name⟩
  | negation offset _ operandHypothesis =>
      obtain ⟨⟨lexeme, place⟩, rest, rfl, rfl, restSame⟩ := List.map_eq_cons_iff.mp same
      obtain ⟨operand, phrase⟩ := operandHypothesis restSame
      exact ⟨_, .negation place phrase⟩
  | parenthesized opening closing _ innerHypothesis =>
      rw [List.map_append, List.map_cons] at same
      obtain ⟨front, back, rfl, frontSame, backSame⟩ := List.map_eq_append_iff.mp same
      obtain ⟨⟨lexeme, place⟩, inner, rfl, rfl, innerSame⟩ := List.map_eq_cons_iff.mp frontSame
      obtain ⟨⟨lexeme, closingPlace⟩, rest, rfl, rfl, nothing⟩ := List.map_eq_cons_iff.mp backSame
      rw [List.map_eq_nil_iff.mp nothing]
      obtain ⟨expression, phrase⟩ := innerHypothesis innerSame
      exact ⟨_, .parenthesized place closingPlace phrase⟩
  | tighter below _ inductionHypothesis =>
      obtain ⟨expression, phrase⟩ := inductionHypothesis same
      exact ⟨expression, .tighter below phrase⟩
  | binary operator offset atLevel _ _ leftHypothesis rightHypothesis =>
      rw [List.map_append, List.map_cons] at same
      obtain ⟨leftTokens, back, rfl, leftSame, backSame⟩ := List.map_eq_append_iff.mp same
      obtain ⟨⟨lexeme, place⟩, rightTokens, rfl, rfl, rightSame⟩ :=
        List.map_eq_cons_iff.mp backSame
      obtain ⟨left, leftPhrase⟩ := leftHypothesis leftSame
      obtain ⟨right, rightPhrase⟩ := rightHypothesis rightSame
      exact ⟨_, .binary operator place atLevel leftPhrase rightPhrase⟩
  | conditional question colon _ _ _ conditionHypothesis trueHypothesis falseHypothesis =>
      rw [List.map_append, List.map_append, List.map_cons, List.map_cons] at same
      obtain ⟨front, back, rfl, frontSame, backSame⟩ := List.map_eq_append_iff.mp same
      obtain ⟨conditionTokens, middle, rfl, conditionSame, middleSame⟩ :=
        List.map_eq_append_iff.mp frontSame
      obtain ⟨⟨lexeme, questionPlace⟩, trueTokens, rfl, rfl, trueSame⟩ :=
        List.map_eq_cons_iff.mp middleSame
      obtain ⟨⟨lexeme, colonPlace⟩, falseTokens, rfl, rfl, falseSame⟩ :=
        List.map_eq_cons_iff.mp backSame
      obtain ⟨condition, conditionPhrase⟩ := conditionHypothesis conditionSame
      obtain ⟨whenTrue, truePhrase⟩ := trueHypothesis trueSame
      obtain ⟨whenFalse, falsePhrase⟩ := falseHypothesis falseSame
      exact ⟨_, .conditional questionPlace colonPlace conditionPhrase truePhrase falsePhrase⟩

theorem phrase_of_read
    {source : String}
    {expression : Expression}
    {found : List Token}
    (read : Expression.read source = .ok expression)
    (lexed : tokens source.toList = .ok found) :
    Phrase conditionalLevel found expression := by
  obtain ⟨_, otherLexed, readAs⟩ := read_eq_ok.mp read
  rw [lexed] at otherLexed
  cases otherLexed
  exact phrase_of_readWhole readAs

theorem IsWholeExpression.exists_phrase
    {given : List Token}
    (isWhole : IsWholeExpression given) :
    ∃ expression, Phrase conditionalLevel given expression := by
  obtain ⟨source, expression, found, read, lexed, same⟩ := isWhole
  exact (phrase_of_read read lexed).relabel same.symm

/-- Tokens that begin an expression are the first ones of a phrase. -/
theorem BeginsExpression.exists_phrase
    {begun : List Token}
    (begins : BeginsExpression begun) :
    ∃ further expression, Phrase conditionalLevel (begun ++ further) expression := by
  obtain ⟨source, expression, found, read, lexed, rest, shape⟩ := begins
  obtain ⟨front, further, rfl, frontSame, _⟩ := List.map_eq_append_iff.mp shape.symm
  have same :
      (begun ++ further).map Token.lexeme = (front ++ further).map Token.lexeme := by
    rw [List.map_append, List.map_append, frontSame]
  obtain ⟨relabelled, phrase⟩ := (phrase_of_read read lexed).relabel same
  exact ⟨further, relabelled, phrase⟩

/-! ## Writing tokens -/

theorem isWritable_of_holds
    {offset : Nat}
    {tokens : List Token}
    {text : List Char}
    (holds : Holds offset tokens text) :
    ∀ token ∈ tokens, token.IsWritable := by
  induction holds with
  | space _ _ =>
      simp
  | token _ _ written _ inductionHypothesis =>
      exact List.forall_mem_cons.mpr ⟨⟨_, written⟩, inductionHypothesis⟩

/-- Tokens that can be written make a text, where they get other offsets. -/
theorem exists_holds
    (offset : Nat)
    {tokens : List Token}
    (writable : ∀ token ∈ tokens, token.IsWritable) :
    ∃ placed text, Holds offset placed text ∧ placed.map Token.lexeme = tokens.map Token.lexeme := by
  induction tokens generalizing offset with
  | nil =>
      exact ⟨[], [], .space offset (by simp [IsSpace]), rfl⟩
  | cons token rest inductionHypothesis =>
      rw [List.forall_mem_cons] at writable
      obtain ⟨⟨word, written⟩, restWritable⟩ := writable
      obtain ⟨placed, text, holds, same⟩ := inductionHypothesis (offset + word.length) restWritable
      have noSpace : IsSpace [] := by simp [IsSpace]
      exact ⟨_, _, .token offset noSpace written holds, by simp [same]⟩

/-- A phrase of tokens that can be written is the tokens of a text that is read as an
expression. -/
theorem Phrase.isWholeExpression
    {tokens : List Token}
    {expression : Expression}
    (phrase : Phrase conditionalLevel tokens expression)
    (writable : ∀ token ∈ tokens, token.IsWritable) :
    IsWholeExpression tokens := by
  obtain ⟨placed, text, holds, same⟩ := exists_holds 0 writable
  obtain ⟨relabelled, placedPhrase⟩ := phrase.relabel same
  have lexed : Plural.tokens (String.ofList text).toList = .ok placed := by
    rw [String.toList_ofList]
    exact tokensFrom_of_holds holds placedPhrase.isRow.adjoins
  exact ⟨_, relabelled, placed, read_eq_ok.mpr ⟨placed, lexed, readWhole_eq_ok_iff.mpr placedPhrase⟩,
    lexed, same⟩

theorem beginsExpression_of_isCompletable
    {begun : List Token}
    (writable : ∀ token ∈ begun, token.IsWritable)
    (completable : IsCompletable conditionalLevel begun) :
    BeginsExpression begun := by
  obtain ⟨further, expression, furtherWritable, phrase⟩ := completable
  obtain ⟨source, read, found, isRead, lexed, same⟩ :=
    phrase.isWholeExpression (List.forall_mem_append.mpr ⟨writable, furtherWritable⟩)
  refine ⟨source, read, found, isRead, lexed, ?_⟩
  rw [same, List.map_append]
  exact List.prefix_append _ _

/-! ## The place of an error -/

/-- Whether the rest of some tokens does not fit after those before it, and where: its first token,
or the end of the text. -/
inductive Misfits
    (sourceLength : Nat)
    (before : List Token) :
    List Token →
    Nat →
    Prop where
  | token
      {token : Token}
      {rest : List Token} :
      ¬BeginsExpression (before ++ [token]) →
      Misfits sourceLength before (token :: rest) token.offset
  | finish :
      ¬IsWholeExpression before →
      Misfits sourceLength before [] sourceLength

/-- Whether an offset is the earliest place at which a source text turns out to be no expression. -/
structure IsEarliestFault
    (source : String)
    (offset : Nat) :
    Prop where
  unreadable : ∀ place, IsUnreadable source.toList place → offset = place
  unfitting :
    (∀ place, ¬IsUnreadable source.toList place) →
    ∃ before rest,
      IsCut 0 source.toList (before ++ rest) source.toList.length [] ∧
        (∀ begun, begun <+: before → BeginsExpression begun) ∧
        Misfits source.toList.length before rest offset

theorem misfits_of_readWhole
    {given before : List Token}
    {mismatch : Mismatch}
    {sourceLength : Nat}
    (refused : readWhole given = .error mismatch)
    (shape : given = before ++ mismatch.remaining) :
    Misfits sourceLength before mismatch.remaining (mismatch.error sourceLength).offset := by
  obtain ⟨taken, takenShape, sameNext⟩ := readWhole_of_sameNext refused
  have same : before = taken := List.append_cancel_right (shape.symm.trans takenShape)
  subst same
  cases remaining : mismatch.remaining with
  | nil =>
      have place : (mismatch.error sourceLength).offset = sourceLength := by
        simp [Mismatch.error, remaining]
      rw [place]
      refine .finish fun isWhole => ?_
      obtain ⟨expression, phrase⟩ := isWhole.exists_phrase
      rw [remaining, List.append_nil] at shape
      rw [shape, readWhole_eq_ok_iff.mpr phrase] at refused
      cases refused
  | cons token rest =>
      have place : (mismatch.error sourceLength).offset = token.offset := by
        simp [Mismatch.error, remaining]
      rw [place]
      refine .token fun begins => ?_
      obtain ⟨further, expression, phrase⟩ := begins.exists_phrase
      have refusedToo := sameNext (token :: further) (by rw [remaining]; rfl)
      rw [List.append_assoc, List.singleton_append] at phrase
      rw [readWhole_eq_ok_iff.mpr phrase] at refusedToo
      cases refusedToo

/-- A source text that is no expression is refused at the earliest place that shows it. -/
theorem isEarliestFault_of_read
    {source : String}
    {error : ReadError}
    (refused : Expression.read source = .error error) :
    IsEarliestFault source error.offset := by
  unfold Expression.read at refused
  split at refused
  · rename_i lexicalError lexed
    cases refused
    have isUnreadable : IsUnreadable source.toList error.offset :=
      isUnreadable_iff.mpr ⟨error.fault, lexed⟩
    refine ⟨fun place otherUnreadable => ?_, fun noneUnreadable => ?_⟩
    · obtain ⟨fault, otherwise⟩ := isUnreadable_iff.mp otherUnreadable
      rw [lexed] at otherwise
      cases otherwise
      rfl
    · exact absurd isUnreadable (noneUnreadable _)
  · rename_i found lexed
    split at refused
    · rename_i mismatch read
      cases refused
      refine ⟨fun place isUnreadable => ?_, fun _ => ?_⟩
      · obtain ⟨fault, otherwise⟩ := isUnreadable_iff.mp isUnreadable
        rw [lexed] at otherwise
        cases otherwise
      · have isCut := isCutBy_tokensFrom 0 source.toList
        rw [← tokens, lexed, IsCutBy, Nat.zero_add] at isCut
        obtain ⟨before, shape, completable⟩ := isCompletable_of_readWhole read
        have writable := isWritable_of_holds (holds_of_tokensFrom lexed)
        rw [shape] at isCut writable
        have begins : BeginsExpression before :=
          beginsExpression_of_isCompletable
            (fun token isMember => writable token (List.mem_append_left _ isMember)) completable
        exact ⟨before, mismatch.remaining, isCut, fun _ starts => begins.of_isPrefix starts,
          misfits_of_readWhole read shape⟩
    · cases refused

/-- The first branch ends at a parenthesis that is still open. -/
theorem isEarliestFault_of_read_open_parenthesis :
    Expression.read "n==1 ? (0 : 1" =
        .error ⟨10, .mismatch (.symbol .closeParenthesis) (some (.mark .colon))⟩ ∧
      IsEarliestFault "n==1 ? (0 : 1" 10 := by
  have refused :
      Expression.read "n==1 ? (0 : 1" =
        .error ⟨10, .mismatch (.symbol .closeParenthesis) (some (.mark .colon))⟩ := by
    cbv
  exact ⟨refused, isEarliestFault_of_read refused⟩

end Phrasebook.Plural
