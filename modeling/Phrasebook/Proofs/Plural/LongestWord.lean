import Phrasebook.Proofs.Plural.Spacing

namespace Phrasebook.Plural

/-!
# Longest words

A text is cut into tokens from its front: white space is passed over, and of the words that start
at a place the longest one is taken. Cutting ends at the first place where no token starts, which
is where no word does or where the longest one is a number beyond 64 bits.
-/

/-- The words that a text may be cut into, numbers of any size among them. -/
inductive IsWord :
    List Char →
    Prop where
  | number
      {digits : List Char} :
      digits ≠ [] →
      (∀ digit ∈ digits, digit.isDigit) →
      IsWord digits
  | name
      {lead : Char}
      {further : List Char} :
      isNameLead lead →
      (∀ character ∈ further, isNamePart character) →
      IsWord (lead :: further)
  | mark
      (symbol : Symbol) :
      IsWord symbol.spelling.toList

theorem Lexeme.IsWrittenAs.isWord
    {lexeme : Lexeme}
    {word : List Char}
    (written : lexeme.IsWrittenAs word) :
    IsWord word := by
  cases written with
  | number notEmpty areDigits _ =>
      exact .number notEmpty areDigits
  | name isLead areParts =>
      exact .name isLead areParts
  | mark symbol =>
      exact .mark symbol

/-- Whether a text starts with a word and with no longer one. -/
structure IsLongestWord
    (word text : List Char) :
    Prop where
  isWord : IsWord word
  starts : word <+: text
  longest : ∀ other, IsWord other → other <+: text → other.length ≤ word.length

/-- Whether a text starts with neither white space nor a token. -/
inductive StartsNoToken :
    List Char →
    Prop where
  | unknown
      {character : Char}
      {text : List Char} :
      Text.isWhitespace character = false →
      (∀ word, IsWord word → ¬word <+: character :: text) →
      StartsNoToken (character :: text)
  | tooLarge
      {digits text : List Char} :
      (∀ digit ∈ digits, digit.isDigit) →
      largestLiteral < Text.decimalValue digits →
      IsLongestWord digits text →
      StartsNoToken text

/-- Whether a text that starts at an offset is cut into some tokens up to a place, from which on
some of it is left. -/
inductive IsCut :
    Nat →
    List Char →
    List Token →
    Nat →
    List Char →
    Prop where
  | done
      (offset : Nat)
      (text : List Char) :
      IsCut offset text [] offset text
  | space
      {offset place : Nat}
      {character : Char}
      {text rest : List Char}
      {tokens : List Token} :
      Text.isWhitespace character →
      IsCut (offset + 1) text tokens place rest →
      IsCut offset (character :: text) tokens place rest
  | token
      {offset place : Nat}
      {lexeme : Lexeme}
      {word text rest : List Char}
      {tokens : List Token} :
      IsLongestWord word (word ++ text) →
      lexeme.IsWrittenAs word →
      IsCut (offset + word.length) text tokens place rest →
      IsCut offset (word ++ text) (⟨lexeme, offset⟩ :: tokens) place rest

/-- Whether a text can be cut into tokens up to a place, and no token starts there. -/
def IsUnreadable
    (text : List Char)
    (place : Nat) :
    Prop :=
  ∃ tokens rest, IsCut 0 text tokens place rest ∧ StartsNoToken rest

/-! ## How words start -/

theorem ne_nil_of_isWord
    {word : List Char}
    (isWord : IsWord word) :
    word ≠ [] := by
  cases isWord with
  | number notEmpty _ =>
      exact notEmpty
  | name _ _ =>
      exact List.cons_ne_nil _ _
  | mark symbol =>
      exact ne_nil_of_isWrittenAs (.mark symbol)

/-- A mark leads a symbol, whether or not an equals sign is merged with it. -/
theorem isSome_leadingSymbol?_mergeable
    {mark : Char}
    (symbol : Symbol)
    (mergeable : (mark, symbol) ∈
      [('!', Symbol.not), ('<', .binary .less), ('>', .binary .greater)])
    (text : List Char) :
    (leadingSymbol? (mark :: text)).isSome := by
  by_cases apart : Text.LacksLead (· == '=') text
  · rw [leadingSymbol?_mergeable mergeable apart]
    rfl
  · rw [Text.LacksLead] at apart
    push Not at apart
    obtain ⟨character, rest, rfl, isEquals⟩ := apart
    rw [Bool.ne_false_iff, beq_iff_eq] at isEquals
    rw [isEquals]
    simp only [List.mem_cons, Prod.mk.injEq, List.not_mem_nil, or_false] at mergeable
    rcases mergeable with ⟨rfl, rfl⟩ | ⟨rfl, rfl⟩ | ⟨rfl, rfl⟩ <;> rfl

/-- A text that starts with the spelling of a symbol starts with a symbol of at least that
length. -/
theorem leadingSymbol?_of_isPrefix
    {symbol : Symbol}
    {text : List Char}
    (starts : symbol.spelling.toList <+: text) :
    ∃ found further,
      leadingSymbol? text = some (found, further) ∧
        symbol.spelling.toList.length ≤ further + 1 := by
  obtain ⟨rest, rfl⟩ := starts
  -- Only in place of a symbol of one character may a longer one be found.
  have single (found : Option (Symbol × Nat)) (isSome : found.isSome) :
      ∃ longer further, found = some (longer, further) ∧ 1 ≤ further + 1 := by
    obtain ⟨⟨longer, further⟩, rfl⟩ := Option.isSome_iff_exists.mp isSome
    exact ⟨longer, further, rfl, Nat.le_add_left 1 further⟩
  cases symbol with
  | not =>
      have isSome : (leadingSymbol? ('!' :: rest)).isSome :=
        isSome_leadingSymbol?_mergeable .not (by simp) rest
      exact single _ isSome
  | binary operator =>
      cases operator with
      | less =>
          have isSome : (leadingSymbol? ('<' :: rest)).isSome :=
            isSome_leadingSymbol?_mergeable (.binary .less) (by simp) rest
          exact single _ isSome
      | greater =>
          have isSome : (leadingSymbol? ('>' :: rest)).isSome :=
            isSome_leadingSymbol?_mergeable (.binary .greater) (by simp) rest
          exact single _ isSome
      | remainder =>
          exact single _ rfl
      | _ =>
          exact ⟨_, _, rfl, Nat.le_refl 2⟩
  | _ =>
      exact single _ rfl

/-- A word that starts a text is a number, a name, or no longer than the symbol there. -/
theorem lead_of_isWord
    {word text : List Char}
    {character : Char}
    (isWord : IsWord word)
    (starts : word <+: character :: text) :
    (isNamePart character ∧ ∀ other ∈ word, isNamePart other) ∨
      ∃ found further,
        leadingSymbol? (character :: text) = some (found, further) ∧
          word.length ≤ further + 1 := by
  cases isWord with
  | @number digits notEmpty areDigits =>
      obtain ⟨digit, further, rfl⟩ := List.exists_cons_of_ne_nil notEmpty
      obtain ⟨rfl, _⟩ := List.cons_prefix_cons.mp starts
      have areParts : ∀ other ∈ digit :: further, isNamePart other :=
        fun other isMember => isNamePart_of_isDigit (areDigits other isMember)
      exact .inl ⟨areParts digit List.mem_cons_self, areParts⟩
  | name isLead areParts =>
      obtain ⟨rfl, _⟩ := List.cons_prefix_cons.mp starts
      have isPart := isNamePart_of_isNameLead isLead
      exact .inl ⟨isPart, List.forall_mem_cons.mpr ⟨isPart, areParts⟩⟩
  | mark symbol =>
      exact .inr (leadingSymbol?_of_isPrefix starts)

/-- A word all of whose characters meet a condition goes no further than those of the text do. -/
theorem length_le_of_isPrefix
    {condition : Char → Bool}
    {word text : List Char}
    (all : ∀ character ∈ word, condition character)
    (starts : word <+: text) :
    word.length ≤ (text.takeWhile condition).length := by
  obtain ⟨rest, rfl⟩ := starts
  rw [List.takeWhile_append_of_pos all, List.length_append]
  exact Nat.le_add_right _ _

/-- No word starts with a character that is no part of a name and leads no symbol. -/
theorem startsNoToken_of_unknown
    {character : Char}
    {text : List Char}
    (noSpace : Text.isWhitespace character = false)
    (noSymbol : leadingSymbol? (character :: text) = none)
    (noDigit : character.isDigit = false)
    (noLead : isNameLead character = false) :
    StartsNoToken (character :: text) := by
  refine .unknown noSpace fun word isWord starts => ?_
  cases isWord with
  | number notEmpty areDigits =>
      obtain ⟨digit, further, rfl⟩ := List.exists_cons_of_ne_nil notEmpty
      obtain ⟨rfl, _⟩ := List.cons_prefix_cons.mp starts
      have isDigit := areDigits digit List.mem_cons_self
      rw [noDigit] at isDigit
      cases isDigit
  | name isLead _ =>
      obtain ⟨rfl, _⟩ := List.cons_prefix_cons.mp starts
      rw [noLead] at isLead
      cases isLead
  | mark symbol =>
      obtain ⟨_, _, found, _⟩ := leadingSymbol?_of_isPrefix starts
      rw [noSymbol] at found
      cases found

/-! ## The longest word -/

theorem isLongestWord_symbol
    {character : Char}
    {text : List Char}
    {symbol : Symbol}
    {further : Nat}
    (leading : leadingSymbol? (character :: text) = some (symbol, further)) :
    IsLongestWord symbol.spelling.toList (character :: text) := by
  obtain ⟨length, shape⟩ := leadingSymbol?_eq_some leading
  refine ⟨.mark symbol, ⟨_, shape.symm⟩, fun other isWord starts => ?_⟩
  rcases lead_of_isWord isWord starts with ⟨isPart, _⟩ | ⟨found, other, otherLeading, bounded⟩
  · rw [leadingSymbol?_of_isNamePart isPart] at leading
    cases leading
  · rw [leading] at otherLeading
    cases otherLeading
    rw [length]
    exact bounded

theorem isLongestWord_number
    {digit : Char}
    (text : List Char)
    (isDigit : digit.isDigit) :
    IsLongestWord (digit :: text.takeWhile Char.isDigit) (digit :: text) := by
  have areDigits : ∀ other ∈ digit :: text.takeWhile Char.isDigit, other.isDigit :=
    List.forall_mem_cons.mpr ⟨isDigit, List.all_eq_true.mp List.all_takeWhile⟩
  refine ⟨.number (List.cons_ne_nil _ _) areDigits, ?_, fun other isWord starts => ?_⟩
  · exact List.cons_prefix_cons.mpr ⟨rfl, List.takeWhile_prefix _⟩
  · cases isWord with
    | number _ otherDigits =>
        have bounded := length_le_of_isPrefix otherDigits starts
        rwa [List.takeWhile_cons_of_pos isDigit] at bounded
    | name isLead _ =>
        obtain ⟨rfl, _⟩ := List.cons_prefix_cons.mp starts
        rw [isDigit_of_isNameLead isLead] at isDigit
        cases isDigit
    | mark symbol =>
        obtain ⟨_, _, found, _⟩ := leadingSymbol?_of_isPrefix starts
        rw [leadingSymbol?_of_isNamePart (isNamePart_of_isDigit isDigit)] at found
        cases found

theorem isLongestWord_name
    {lead : Char}
    (text : List Char)
    (isLead : isNameLead lead) :
    IsLongestWord (lead :: text.takeWhile isNamePart) (lead :: text) := by
  have isPart := isNamePart_of_isNameLead isLead
  refine ⟨.name isLead (List.all_eq_true.mp List.all_takeWhile), ?_, fun other isWord starts => ?_⟩
  · exact List.cons_prefix_cons.mpr ⟨rfl, List.takeWhile_prefix _⟩
  · rcases lead_of_isWord isWord starts with ⟨_, areParts⟩ | ⟨_, _, found, _⟩
    · have bounded := length_le_of_isPrefix areParts starts
      rwa [List.takeWhile_cons_of_pos isPart] at bounded
    · rw [leadingSymbol?_of_isNamePart isPart] at found
      cases found

/-! ## Cutting up to a place -/

/-- What follows a number or a name that is the longest word does not go on with it. -/
theorem lacksLead_of_isLongestWord
    {condition : Char → Bool}
    {word text : List Char}
    (longest : IsLongestWord word (word ++ text))
    (goesOn : ∀ character, condition character → IsWord (word ++ [character])) :
    Text.LacksLead condition text := by
  rintro character rest rfl
  by_contra holds
  rw [Bool.not_eq_false] at holds
  have bounded := longest.longest _ (goesOn character holds) ⟨rest, by simp⟩
  simp at bounded

theorem leadingSymbol?_of_isLongestWord
    {symbol : Symbol}
    {text : List Char}
    (longest : IsLongestWord symbol.spelling.toList (symbol.spelling.toList ++ text)) :
    leadingSymbol? (symbol.spelling.toList ++ text) =
      some (symbol, symbol.spelling.toList.length - 1) := by
  have apart (merged : Symbol)
      (same : merged.spelling.toList = symbol.spelling.toList ++ ['=']) :
      Text.LacksLead (· == '=') text := by
    refine lacksLead_of_isLongestWord longest fun character isEquals => ?_
    rw [beq_iff_eq] at isEquals
    rw [isEquals, ← same]
    exact .mark merged
  cases symbol with
  | not =>
      change leadingSymbol? ('!' :: text) = some (.not, 0)
      exact leadingSymbol?_mergeable (by simp) (apart (.binary .notEqual) rfl)
  | binary operator =>
      cases operator with
      | less =>
          change leadingSymbol? ('<' :: text) = some (.binary .less, 0)
          exact leadingSymbol?_mergeable (by simp) (apart (.binary .lessEqual) rfl)
      | greater =>
          change leadingSymbol? ('>' :: text) = some (.binary .greater, 0)
          exact leadingSymbol?_mergeable (by simp) (apart (.binary .greaterEqual) rfl)
      | _ =>
          rfl
  | _ =>
      rfl

/-- The longest word at a place is taken as the token that it writes. -/
theorem tokensFrom_of_isLongestWord
    {offset : Nat}
    {lexeme : Lexeme}
    {word text : List Char}
    (longest : IsLongestWord word (word ++ text))
    (written : lexeme.IsWrittenAs word) :
    tokensFrom offset (word ++ text) =
      (tokensFrom (offset + word.length) text).map (⟨lexeme, offset⟩ :: ·) := by
  cases written with
  | number notEmpty areDigits bounded =>
      refine tokensFrom_number notEmpty areDigits bounded ?_
      refine lacksLead_of_isLongestWord longest fun character isDigit => ?_
      exact .number (by simp) (List.forall_mem_append.mpr ⟨areDigits, by simpa using isDigit⟩)
  | name isLead areParts =>
      refine tokensFrom_name isLead areParts ?_
      refine lacksLead_of_isLongestWord longest fun character isPart => ?_
      exact .name isLead (List.forall_mem_append.mpr ⟨areParts, by simpa using isPart⟩)
  | mark symbol =>
      exact tokensFrom_of_leadingSymbol? (leadingSymbol?_of_isLongestWord longest)

/-- The tokens of a text are those up to a place and those from there on. -/
theorem IsCut.tokensFrom_eq
    {offset place : Nat}
    {text rest : List Char}
    {tokens : List Token}
    (isCut : IsCut offset text tokens place rest) :
    tokensFrom offset text = (tokensFrom place rest).map (tokens ++ ·) := by
  induction isCut with
  | done offset text =>
      cases tokensFrom offset text <;> rfl
  | space isSpace _ inductionHypothesis =>
      rw [tokensFrom, if_pos isSpace, inductionHypothesis]
  | @token offset place _ _ _ rest _ longest written _ inductionHypothesis =>
      rw [tokensFrom_of_isLongestWord longest written, inductionHypothesis]
      cases tokensFrom place rest <;> rfl

/-- Where no token starts there are no tokens. -/
theorem StartsNoToken.tokensFrom
    {text : List Char}
    (noToken : StartsNoToken text)
    (offset : Nat) :
    ∃ fault, tokensFrom offset text = .error ⟨offset, fault⟩ := by
  cases noToken with
  | @unknown character text noSpace noWord =>
      have noSymbol : leadingSymbol? (character :: text) = none := by
        cases leading : leadingSymbol? (character :: text) with
        | none =>
            rfl
        | some found =>
            exact absurd (isLongestWord_symbol leading).starts (noWord _ (.mark found.1))
      have noDigit : ¬character.isDigit := fun isDigit =>
        noWord _ (isLongestWord_number text isDigit).isWord (isLongestWord_number text isDigit).starts
      have noLead : ¬isNameLead character := fun isLead =>
        noWord _ (isLongestWord_name text isLead).isWord (isLongestWord_name text isLead).starts
      refine ⟨.unknownCharacter character, ?_⟩
      rw [Plural.tokensFrom, noSpace]
      simp [noSymbol, noDigit, noLead]
  | @tooLarge digits text areDigits exceeds longest =>
      obtain ⟨digit, further, rfl⟩ :=
        List.exists_cons_of_ne_nil (ne_nil_of_isWord longest.isWord)
      obtain ⟨rest, rfl⟩ := longest.starts
      rw [List.forall_mem_cons] at areDigits
      have isPart := isNamePart_of_isDigit areDigits.1
      have lacks : Text.LacksLead Char.isDigit rest := by
        refine lacksLead_of_isLongestWord longest fun character isDigit => ?_
        refine .number (by simp) (List.forall_mem_append.mpr ⟨?_, by simpa using isDigit⟩)
        exact List.forall_mem_cons.mpr areDigits
      obtain ⟨taken, -⟩ := Text.takeWhile_of_lacksLead areDigits.2 lacks
      refine ⟨.literalTooLarge (String.ofList (digit :: further)), ?_⟩
      rw [List.cons_append, Plural.tokensFrom, isWhitespace_of_isNamePart isPart,
        leadingSymbol?_of_isNamePart isPart]
      simp [areDigits.1, taken, Nat.not_le.mpr exceeds]

/-- Whether a text is cut up to its end into the tokens of a result, or up to the place of its
error, where no token starts. -/
def IsCutBy
    (offset : Nat)
    (text : List Char) :
    Except ReadError (List Token) →
    Prop
  | .ok tokens => IsCut offset text tokens (offset + text.length) []
  | .error error =>
      ∃ tokens rest, IsCut offset text tokens error.offset rest ∧ StartsNoToken rest

theorem IsCutBy.space
    {offset : Nat}
    {character : Char}
    {text : List Char}
    {result : Except ReadError (List Token)}
    (isSpace : Text.isWhitespace character)
    (isCut : IsCutBy (offset + 1) text result) :
    IsCutBy offset (character :: text) result := by
  cases result with
  | ok tokens =>
      rw [IsCutBy, Nat.add_assoc, Nat.add_comm 1] at isCut
      exact IsCut.space isSpace isCut
  | error error =>
      obtain ⟨tokens, rest, isCut, noToken⟩ := isCut
      exact ⟨tokens, rest, .space isSpace isCut, noToken⟩

theorem IsCutBy.token
    {offset : Nat}
    {lexeme : Lexeme}
    {word text : List Char}
    {result : Except ReadError (List Token)}
    (longest : IsLongestWord word (word ++ text))
    (written : lexeme.IsWrittenAs word)
    (isCut : IsCutBy (offset + word.length) text result) :
    IsCutBy offset (word ++ text) (result.map (⟨lexeme, offset⟩ :: ·)) := by
  cases result with
  | ok tokens =>
      rw [IsCutBy, Nat.add_assoc, ← List.length_append] at isCut
      exact IsCut.token longest written isCut
  | error error =>
      obtain ⟨tokens, rest, isCut, noToken⟩ := isCut
      exact ⟨_, rest, .token longest written isCut, noToken⟩

theorem isCutBy_tokensFrom
    (offset : Nat)
    (text : List Char) :
    IsCutBy offset text (tokensFrom offset text) := by
  fun_induction tokensFrom offset text with
  | case1 offset =>
      exact .done offset []
  | case2 offset character text isSpace inductionHypothesis =>
      exact .space isSpace inductionHypothesis
  | case3 offset character text _ symbol further leading inductionHypothesis =>
      have longest := isLongestWord_symbol leading
      obtain ⟨length, shape⟩ := leadingSymbol?_eq_some leading
      rw [List.drop_succ_cons] at shape
      rw [shape] at longest ⊢
      have place : offset + 1 + further = offset + symbol.spelling.toList.length := by omega
      rw [place] at inductionHypothesis ⊢
      exact .token longest (.mark symbol) inductionHypothesis
  | case4 offset character text _ _ isDigit digits bounded inductionHypothesis =>
      have longest := isLongestWord_number text isDigit
      have written : (Lexeme.number (Int64.ofNat (Text.decimalValue digits))).IsWrittenAs digits :=
        .number (List.cons_ne_nil _ _)
          (List.forall_mem_cons.mpr ⟨isDigit, List.all_eq_true.mp List.all_takeWhile⟩) bounded
      have shape : digits ++ text.dropWhile Char.isDigit = character :: text := by
        simp [digits]
      rw [← shape] at longest ⊢
      exact .token longest written inductionHypothesis
  | case5 offset character text _ _ isDigit digits exceeds =>
      refine ⟨[], _, .done offset _,
        .tooLarge ?_ (Nat.not_le.mp exceeds) (isLongestWord_number text isDigit)⟩
      exact List.forall_mem_cons.mpr ⟨isDigit, List.all_eq_true.mp List.all_takeWhile⟩
  | case6 offset character text _ _ _ isLead name inductionHypothesis =>
      have longest := isLongestWord_name text isLead
      have written : (Lexeme.name (String.ofList name)).IsWrittenAs name :=
        .name isLead (List.all_eq_true.mp List.all_takeWhile)
      have shape : name ++ text.dropWhile isNamePart = character :: text := by
        simp [name]
      rw [← shape] at longest ⊢
      exact .token longest written inductionHypothesis
  | case7 offset character text noSpace noSymbol noDigit noLead =>
      exact ⟨[], _, .done offset _,
        startsNoToken_of_unknown (by simpa using noSpace) noSymbol (by simpa using noDigit)
          (by simpa using noLead)⟩

/-- A text has no tokens just if a place is reached where none starts, and then the error is of that
place. -/
theorem isUnreadable_iff
    {text : List Char}
    {place : Nat} :
    IsUnreadable text place ↔ ∃ fault, tokens text = .error ⟨place, fault⟩ := by
  constructor
  · rintro ⟨found, rest, isCut, noToken⟩
    obtain ⟨fault, refused⟩ := noToken.tokensFrom place
    refine ⟨fault, ?_⟩
    rw [tokens, isCut.tokensFrom_eq, refused]
    rfl
  · rintro ⟨fault, refused⟩
    have isCut := isCutBy_tokensFrom 0 text
    rw [← tokens, refused] at isCut
    exact isCut

end Phrasebook.Plural
