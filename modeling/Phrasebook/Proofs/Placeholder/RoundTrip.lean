import Mathlib
import Phrasebook.Placeholder.Scanner
import Phrasebook.Proofs.Identifier
import Phrasebook.Proofs.Result

namespace Phrasebook.Placeholder

/-!
# Scanning and writing back

Scanning cuts a message into pieces without losing any of it. A placeholder may be written in
several ways; when the tokens of a message are written back each one stands in its shortest form,
and the message that this makes has the same tokens as the first. Braces that belong to no
placeholder stay where they are, and they neither make a placeholder of what is written next to
them nor break one.
-/

/-! ## The placeholders of messages -/

/-- The placeholders that a message can have. -/
inductive IsWritable :
    Reference →
    Prop where
  | index
      {index : Nat}
      (small : index ≤ largestIndex) :
      IsWritable ⟨some index, none, none⟩
  | named
      {index : Nat}
      {name : String}
      (small : index ≤ largestIndex)
      (isName : Identifier.isName name.toList) :
      IsWritable ⟨some index, some name, none⟩
  | typed
      {index : Nat}
      {name : String}
      {type : ArgumentType}
      (small : index ≤ largestIndex)
      (isName : Identifier.isName name.toList) :
      IsWritable ⟨some index, some name, some type⟩
  | name
      {name : String}
      (isName : Identifier.isName name.toList) :
      IsWritable ⟨none, some name, none⟩

theorem isWritable_of_referenceOfParts
    {content : List Char}
    {parts : List (List Char)}
    {reference : Reference}
    (found : referenceOfParts content parts = .ok (some reference)) :
    IsWritable reference := by
  cases parts with
  | nil =>
      cases found
  | cons first further =>
      simp only [referenceOfParts] at found
      split at found
      · split at found
        · rename_i small
          split at found
          · cases found
            exact .index small
          · split at found
            · rename_i isName
              split at found
              · cases found
                exact .named small (by simpa using isName)
              · split at found
                · cases found
                · split at found
                  · cases found
                    exact .typed small (by simpa using isName)
                  · cases found
            · cases found
        · cases found
      · split at found
        · rename_i isName
          cases found
          rw [Bool.and_eq_true] at isName
          exact .name (by simpa using isName.2)
        · cases found

/-! ## Parts that can be told apart -/

/-- Whether a character is a brace. -/
def isBrace
    (character : Char) :
    Bool :=
  character == '{' || character == '}'

/-- Whether a text has no braces. -/
def IsBraceless
    (text : List Char) :
    Prop :=
  ∀ character ∈ text, isBrace character = false

/-- Whether a text stays whole among the parts of a placeholder. -/
structure IsPlainPart
    (part : List Char) :
    Prop where
  noColon : ':' ∉ part
  braceless : IsBraceless part

theorem isPlainPart_of_isPart
    {part : List Char}
    (isPart : part.all Identifier.isPart) :
    IsPlainPart part := by
  refine ⟨fun isColon => ?_, fun character member => ?_⟩
  · exact absurd (List.all_eq_true.mp isPart _ isColon) (by decide)
  · have isPart := List.all_eq_true.mp isPart character member
    rw [isBrace, Bool.or_eq_false_iff, beq_eq_false_iff_ne, beq_eq_false_iff_ne]
    constructor <;> rintro rfl <;> revert isPart <;> decide

theorem isNumber_toDigits
    (index : Nat) :
    Text.isNumber (Nat.toDigits 10 index) := by
  rw [Text.isNumber, Bool.and_eq_true, List.all_eq_true]
  refine ⟨by simp [Nat.toDigits_ne_nil], fun character member => ?_⟩
  exact Nat.isDigit_of_mem_toDigits (by decide) (by decide) member

theorem isPlainPart_of_isNumber
    {digits : List Char}
    (decimal : Text.isNumber digits) :
    IsPlainPart digits := by
  rw [Text.isNumber, Bool.and_eq_true] at decimal
  refine isPlainPart_of_isPart (List.all_eq_true.mpr fun character member => ?_)
  simp [Identifier.isPart, List.all_eq_true.mp decimal.2 character member]

theorem isPlainPart_of_isName
    {name : List Char}
    (isName : Identifier.isName name) :
    IsPlainPart name :=
  isPlainPart_of_isPart (Identifier.isPart_of_isName isName)

theorem isPlainPart_toDigits
    (index : Nat) :
    IsPlainPart (Nat.toDigits 10 index) :=
  isPlainPart_of_isNumber (isNumber_toDigits index)

theorem isNumber_of_isName
    {name : List Char}
    (isName : Identifier.isName name) :
    Text.isNumber name = false := by
  cases name with
  | nil =>
      cases isName
  | cons lead rest =>
      rw [Identifier.isName, Bool.and_eq_true] at isName
      have noDigit : lead.isDigit = false := by
        have leads := isName.1
        simp only [Identifier.isLead, Bool.or_eq_true, beq_iff_eq] at leads
        rcases leads with letter | rfl
        · simp [Char.isAlpha, Char.isUpper, Char.isLower, Char.isDigit, UInt32.le_iff_toNat_le]
            at letter ⊢
          omega
        · decide
      simp [Text.isNumber, noDigit]

/-! ## Placeholders that are written back -/

namespace Reference

/-- What stands between the braces of a placeholder that is written back. -/
def content
    (reference : Reference) :
    List Char :=
  [':'].intercalate (reference.parts.map String.toList)

theorem toList_display
    (reference : Reference) :
    reference.display.toList = '{' :: (reference.content ++ ['}']) := by
  simp [display, content, String.toList_append, String.toList_intercalate]

end Reference

namespace IsWritable

variable {reference : Reference}

theorem parts_ne_nil
    (writable : IsWritable reference) :
    reference.parts ≠ [] := by
  cases writable <;> simp [Reference.parts]

theorem isPlainPart
    (writable : IsWritable reference) :
    ∀ part ∈ reference.parts.map String.toList, IsPlainPart part := by
  have named {name : String} (isName : Identifier.isName name.toList) : IsPlainPart name.toList :=
    isPlainPart_of_isName isName
  have typed (type : ArgumentType) : IsPlainPart type.displayName.toList := by
    cases type <;> exact isPlainPart_of_isPart (by decide)
  cases writable with
  | index small =>
      simpa [Reference.parts] using isPlainPart_toDigits _
  | named small isName =>
      simpa [Reference.parts] using ⟨isPlainPart_toDigits _, named isName⟩
  | typed small isName =>
      simpa [Reference.parts] using ⟨isPlainPart_toDigits _, named isName, typed _⟩
  | name isName =>
      simpa [Reference.parts] using named isName

/-- The content of a placeholder that is written back has no braces. -/
theorem braceless_content
    (writable : IsWritable reference) :
    IsBraceless reference.content := by
  intro character member
  rcases Text.mem_of_mem_intercalate member with isColon | ⟨part, isPart, inPart⟩
  · rw [List.mem_singleton.mp isColon]
    rfl
  · exact (writable.isPlainPart part isPart).braceless character inPart

/-- A placeholder that is written back is read as itself. -/
theorem referenceOf_content
    (writable : IsWritable reference) :
    referenceOf reference.content = .ok (some reference) := by
  have cut : reference.content.splitOn ':' = reference.parts.map String.toList :=
    List.splitOn_intercalate ':' (fun part isPart => (writable.isPlainPart part isPart).noColon)
      (by simpa using writable.parts_ne_nil)
  have written (type : ArgumentType) :
      ArgumentType.ofWritten? type.displayName.toList = some type := by
    cases type <;> decide
  change referenceOfParts _ (reference.content.splitOn ':') = _
  rw [cut]
  cases writable with
  | index small =>
      simp [Reference.parts, referenceOfParts, isNumber_toDigits, Text.decimalValue_toDigits,
        small]
  | named small isName =>
      simp [Reference.parts, referenceOfParts, isNumber_toDigits, Text.decimalValue_toDigits,
        small, isName]
  | typed small isName =>
      simp [Reference.parts, referenceOfParts, isNumber_toDigits, Text.decimalValue_toDigits,
        small, isName, written]
  | name isName =>
      simp [Reference.parts, referenceOfParts, isNumber_of_isName isName, isName]

end IsWritable

/-! ## Candidates -/

/-- A candidate is what stands before the first brace, if that brace closes. -/
theorem candidate?_eq_some_iff
    {text content rest : List Char} :
    candidate? text = some (content, rest) ↔
      IsBraceless content ∧ text = content ++ '}' :: rest := by
  induction text generalizing content rest with
  | nil =>
      simp [candidate?]
  | cons character text inductionHypothesis =>
      rw [candidate?]
      split
      · rename_i closes
        subst closes
        constructor
        · rintro ⟨⟩
          exact ⟨fun _ member => absurd member List.not_mem_nil, rfl⟩
        · rintro ⟨braceless, shape⟩
          cases content with
          | nil =>
              cases shape
              rfl
          | cons first content =>
              cases shape
              cases braceless _ List.mem_cons_self
      · rename_i noClose
        split
        · rename_i opens
          subst opens
          simp only [reduceCtorEq, false_iff, not_and]
          intro braceless shape
          cases content with
          | nil =>
              cases shape
          | cons first content =>
              cases shape
              cases braceless _ List.mem_cons_self
        · rename_i noOpen
          have plain : isBrace character = false := by simp [isBrace, noClose, noOpen]
          simp only [Option.map_eq_some_iff, Prod.exists, Prod.mk.injEq, inductionHypothesis]
          constructor
          · rintro ⟨further, _, ⟨braceless, rfl⟩, rfl, rfl⟩
            exact ⟨List.forall_mem_cons.mpr ⟨plain, braceless⟩, rfl⟩
          · rintro ⟨braceless, shape⟩
            cases content with
            | nil =>
                exact absurd (List.cons.inj shape).1 noClose
            | cons first content =>
                cases shape
                exact ⟨content, rest, ⟨(List.forall_mem_cons.mp braceless).2, rfl⟩, rfl, rfl⟩

/-! ## Fragments -/

/-- A fragment as it is written back. -/
def Fragment.written :
    Fragment →
    List Char
  | .character single => [single]
  | .argument reference => reference.display.toList

/-- Whether a stretch of a message is where a fragment was found. -/
inductive Fragment.IsFoundIn :
    Fragment →
    List Char →
    Prop where
  | character (single : Char) :
      IsFoundIn (.character single) [single]
  | argument
      {reference : Reference}
      {content : List Char}
      (braceless : IsBraceless content)
      (read : referenceOf content = .ok (some reference)) :
      IsFoundIn (.argument reference) ('{' :: (content ++ ['}']))

/-- Each fragment of a message is found in a stretch of its own, one after the other. -/
theorem exists_stretches
    {text : List Char}
    {found : List Fragment}
    (scanned : fragments text = .ok found) :
    ∃ stretches, List.Forall₂ Fragment.IsFoundIn found stretches ∧ text = stretches.flatten := by
  fun_induction fragments text generalizing found with
  | case1 =>
      cases scanned
      exact ⟨[], .nil, rfl⟩
  | case2 text noCandidate inductionHypothesis
  | case5 text content rest candidate noReference inductionHypothesis
  | case6 character text noBrace inductionHypothesis =>
      obtain ⟨further, furtherScanned, rfl⟩ := cons_of_map_eq_ok scanned
      obtain ⟨stretches, all, rfl⟩ := inductionHypothesis furtherScanned
      exact ⟨[_] :: stretches, .cons (.character _) all, rfl⟩
  | case3 =>
      cases scanned
  | case4 text content rest candidate reference isReference inductionHypothesis =>
      obtain ⟨further, furtherScanned, rfl⟩ := cons_of_map_eq_ok scanned
      obtain ⟨stretches, all, rfl⟩ := inductionHypothesis furtherScanned
      obtain ⟨braceless, rfl⟩ := candidate?_eq_some_iff.mp candidate
      exact ⟨('{' :: (content ++ ['}'])) :: stretches,
        .cons (.argument braceless isReference) all, by simp⟩

/-- What stands before the first brace of a message stands there also when its fragments are
written back, and a brace that closes there still does. -/
theorem candidate?_written
    {text : List Char}
    {found : List Fragment}
    (scanned : fragments text = .ok found) :
    (candidate? (found.flatMap Fragment.written)).map Prod.fst =
      (candidate? text).map Prod.fst := by
  fun_induction fragments text generalizing found with
  | case1 =>
      cases scanned
      rfl
  | case2 text noCandidate inductionHypothesis
  | case5 text content rest candidate noReference inductionHypothesis =>
      obtain ⟨further, -, rfl⟩ := cons_of_map_eq_ok scanned
      simp [Fragment.written, candidate?]
  | case3 =>
      cases scanned
  | case4 text content rest candidate reference isReference inductionHypothesis =>
      obtain ⟨further, -, rfl⟩ := cons_of_map_eq_ok scanned
      simp [Fragment.written, Reference.toList_display, candidate?]
  | case6 character text noBrace inductionHypothesis =>
      obtain ⟨further, furtherScanned, rfl⟩ := cons_of_map_eq_ok scanned
      have same := inductionHypothesis furtherScanned
      by_cases closes : character = '}'
      · simp [Fragment.written, candidate?, closes]
      · simp only [List.flatMap_cons, Fragment.written, List.singleton_append, candidate?, closes,
          noBrace, if_false, Option.map_map]
        simpa [Function.comp_def] using congrArg (Option.map (character :: ·)) same

/-- A brace that belongs to no placeholder is a character. -/
theorem fragments_brace
    {text : List Char}
    (noReference :
      ∀ content, (candidate? text).map Prod.fst = some content → referenceOf content = .ok none) :
    fragments ('{' :: text) = (fragments text).map (.character '{' :: ·) := by
  rw [fragments, if_pos rfl]
  split
  · rfl
  · rename_i content rest found
    rw [noReference content (by rw [found]; rfl)]

/-- What is made of a candidate is settled by the text between its braces. -/
theorem fragments_candidate
    {content : List Char}
    (braceless : IsBraceless content)
    (after : List Char) :
    fragments ('{' :: (content ++ '}' :: after)) =
      match referenceOf content with
      | .error unknown => .error unknown
      | .ok (some reference) => (fragments after).map (.argument reference :: ·)
      | .ok none => (fragments (content ++ '}' :: after)).map (.character '{' :: ·) := by
  have found : candidate? (content ++ '}' :: after) = some (content, after) :=
    candidate?_eq_some_iff.mpr ⟨braceless, rfl⟩
  rw [fragments, if_pos rfl]
  split
  · rename_i absent
    rw [found] at absent
    cases absent
  · rename_i other rest same
    rw [found] at same
    cases same
    rfl

/-- A placeholder that is written back is found again. -/
theorem fragments_display
    {reference : Reference}
    (writable : IsWritable reference)
    (text : List Char) :
    fragments (reference.display.toList ++ text) =
      (fragments text).map (.argument reference :: ·) := by
  have shape : reference.display.toList ++ text = '{' :: (reference.content ++ '}' :: text) := by
    simp [Reference.toList_display]
  rw [shape, fragments_candidate writable.braceless_content, writable.referenceOf_content]

/-- The fragments of a message that are written back are found again. -/
theorem fragments_written
    {text : List Char}
    {found : List Fragment}
    (scanned : fragments text = .ok found) :
    fragments (found.flatMap Fragment.written) = .ok found := by
  fun_induction fragments text generalizing found with
  | case1 =>
      cases scanned
      rw [List.flatMap_nil, fragments]
  | case2 text noCandidate inductionHypothesis =>
      obtain ⟨further, furtherScanned, rfl⟩ := cons_of_map_eq_ok scanned
      have same := candidate?_written furtherScanned
      rw [List.flatMap_cons, Fragment.written, List.singleton_append, fragments_brace,
        inductionHypothesis furtherScanned]
      · rfl
      · simp [same, noCandidate]
  | case3 =>
      cases scanned
  | case4 text content rest candidate reference isReference inductionHypothesis =>
      obtain ⟨further, furtherScanned, rfl⟩ := cons_of_map_eq_ok scanned
      have writable := isWritable_of_referenceOfParts isReference
      rw [List.flatMap_cons, Fragment.written, fragments_display writable,
        inductionHypothesis furtherScanned]
      rfl
  | case5 text content rest candidate noReference inductionHypothesis =>
      obtain ⟨further, furtherScanned, rfl⟩ := cons_of_map_eq_ok scanned
      have same := candidate?_written furtherScanned
      rw [List.flatMap_cons, Fragment.written, List.singleton_append, fragments_brace,
        inductionHypothesis furtherScanned]
      · rfl
      · simp [same, candidate, noReference]
  | case6 character text noBrace inductionHypothesis =>
      obtain ⟨further, furtherScanned, rfl⟩ := cons_of_map_eq_ok scanned
      rw [List.flatMap_cons, Fragment.written, List.singleton_append, fragments, if_neg noBrace,
        inductionHypothesis furtherScanned]
      rfl

/-! ## Tokens -/

/-- A token as it is written back. -/
def Token.written :
    Token →
    List Char
  | .text run => run.toList
  | .argument reference => reference.display.toList

/-- The message that tokens are written back as. -/
def messageOf
    (tokens : List Token) :
    String :=
  String.ofList (tokens.flatMap Token.written)

/-- Whether a stretch of a message is where a token was found: a text token where it stands, a
placeholder between two braces without further braces. -/
inductive Token.IsFoundIn :
    Token →
    List Char →
    Prop where
  | text (run : String) :
      IsFoundIn (.text run) run.toList
  | argument
      {reference : Reference}
      {content : List Char}
      (braceless : IsBraceless content)
      (read : referenceOf content = .ok (some reference)) :
      IsFoundIn (.argument reference) ('{' :: (content ++ ['}']))

/-- Whether a token is a run of text. -/
def Token.IsText :
    Token →
    Prop
  | .text _ => True
  | .argument _ => False

/-- Whether two tokens are not both runs of text. -/
def Token.IsApart
    (first second : Token) :
    Prop :=
  ¬(first.IsText ∧ second.IsText)

theorem written_textToken
    (text : List Char) :
    (textToken text).flatMap Token.written = text := by
  rw [textToken]
  split
  · rename_i isEmpty
    exact (List.isEmpty_iff.mp isEmpty).symm
  · simp [Token.written]

theorem written_grouped
    (pending : List Char)
    (found : List Fragment) :
    (grouped pending found).flatMap Token.written =
      pending.reverse ++ found.flatMap Fragment.written := by
  induction found generalizing pending with
  | nil =>
      simp [grouped, written_textToken]
  | cons fragment rest inductionHypothesis =>
      cases fragment with
      | character single =>
          simp [grouped, inductionHypothesis, Fragment.written]
      | argument reference =>
          simp [grouped, inductionHypothesis, written_textToken, Fragment.written, Token.written]

/-- A text token that stands alone is found where its text stands. -/
theorem exists_stretches_textToken
    (text : List Char) :
    ∃ stretches,
      List.Forall₂ Token.IsFoundIn (textToken text) stretches ∧ text = stretches.flatten := by
  rw [textToken]
  split
  · rename_i isEmpty
    exact ⟨[], .nil, List.isEmpty_iff.mp isEmpty⟩
  · have found := Token.IsFoundIn.text (String.ofList text)
    rw [String.toList_ofList] at found
    exact ⟨[text], .cons found .nil, by simp⟩

theorem exists_stretches_grouped
    {found : List Fragment}
    {stretches : List (List Char)}
    (all : List.Forall₂ Fragment.IsFoundIn found stretches)
    (pending : List Char) :
    ∃ tokenStretches,
      List.Forall₂ Token.IsFoundIn (grouped pending found) tokenStretches ∧
      pending.reverse ++ stretches.flatten = tokenStretches.flatten := by
  induction all generalizing pending with
  | nil =>
      obtain ⟨textStretches, textAll, same⟩ := exists_stretches_textToken pending.reverse
      exact ⟨textStretches, textAll, by simpa using same⟩
  | cons isFound further inductionHypothesis =>
      cases isFound with
      | character single =>
          obtain ⟨tokenStretches, tokenAll, same⟩ := inductionHypothesis (single :: pending)
          exact ⟨tokenStretches, tokenAll, by rw [← same]; simp⟩
      | argument braceless read =>
          obtain ⟨textStretches, textAll, sameText⟩ := exists_stretches_textToken pending.reverse
          obtain ⟨tokenStretches, tokenAll, same⟩ := inductionHypothesis []
          refine ⟨textStretches ++ _ :: tokenStretches,
            List.rel_append textAll (.cons (.argument braceless read) tokenAll), ?_⟩
          simp [← same, sameText]

theorem empty_not_mem_textToken
    (text : List Char) :
    Token.text "" ∉ textToken text := by
  rw [textToken]
  split
  · exact List.not_mem_nil
  · rename_i notEmpty
    intro isMember
    have same := congrArg String.toList (Token.text.inj (List.mem_singleton.mp isMember))
    exact notEmpty (List.isEmpty_iff.mpr (by simpa using same.symm))

theorem empty_not_mem_grouped
    (pending : List Char)
    (found : List Fragment) :
    Token.text "" ∉ grouped pending found := by
  induction found generalizing pending with
  | nil =>
      exact empty_not_mem_textToken _
  | cons fragment rest inductionHypothesis =>
      cases fragment with
      | character single =>
          exact inductionHypothesis (single :: pending)
      | argument reference =>
          rw [grouped, List.mem_append, List.mem_cons]
          rintro (inText | same | further)
          · exact empty_not_mem_textToken _ inText
          · cases same
          · exact inductionHypothesis [] further

/-- A text goes on until the next placeholder, so no two of them meet. -/
theorem isChain_grouped
    (pending : List Char)
    (found : List Fragment) :
    (grouped pending found).IsChain Token.IsApart := by
  induction found generalizing pending with
  | nil =>
      rw [grouped, textToken]
      split <;> simp
  | cons fragment rest inductionHypothesis =>
      cases fragment with
      | character single =>
          exact inductionHypothesis (single :: pending)
      | argument reference =>
          have further : (Token.argument reference :: grouped [] rest).IsChain Token.IsApart :=
            List.isChain_cons.mpr ⟨fun _ _ texts => texts.1, inductionHypothesis []⟩
          rw [grouped, textToken]
          split
          · exact further
          · exact List.isChain_cons_cons.mpr ⟨fun texts => texts.2, further⟩

/-! ## Main result -/

/-- What scanning keeps of a message: no token is an empty text and no two texts meet, each token
was found in a stretch of its own and the stretches make the message, and the message that the
tokens are written back as has the same tokens. -/
structure LosesNothing
    (message : String)
    (tokens : List Token) :
    Prop where
  nonempty : Token.text "" ∉ tokens
  apart : tokens.IsChain Token.IsApart
  stretches :
    ∃ stretches,
      List.Forall₂ Token.IsFoundIn tokens stretches ∧ message.toList = stretches.flatten
  again : scan (messageOf tokens) = .ok tokens

/-- Scanning loses nothing of a message. -/
theorem losesNothing_of_scan
    {message : String}
    {tokens : List Token}
    (scanned : scan message = .ok tokens) :
    LosesNothing message tokens := by
  unfold scan at scanned
  cases known : fragments message.toList with
  | error unknown =>
      rw [known] at scanned
      cases scanned
  | ok found =>
      rw [known] at scanned
      cases scanned
      obtain ⟨stretches, all, shape⟩ := exists_stretches known
      obtain ⟨tokenStretches, tokenAll, same⟩ := exists_stretches_grouped all []
      refine ⟨empty_not_mem_grouped [] found, isChain_grouped [] found,
        ⟨tokenStretches, tokenAll, ?_⟩, ?_⟩
      · rw [shape, ← same]
        rfl
      · have written : (messageOf (grouped [] found)).toList = found.flatMap Fragment.written := by
          rw [messageOf, String.toList_ofList, written_grouped]
          rfl
        rw [scan, written, fragments_written known]
        rfl

/-- A placeholder with leading zeros and another name for its type, next to braces that open none
and behind letters of more than one byte. -/
theorem losesNothing_of_scan_stray_braces :
    let message := "\u00e9\x7b\x7ba\x7b007:n:LONG\x7d\x7d\x7bn\x7d \x7b0:\x7d\x7b"
    let tokens : List Token := [
      .text "\u00e9\x7b\x7ba",
      .argument ⟨some 7, some "n", some .integer⟩,
      .text "\x7d",
      .argument ⟨none, some "n", none⟩,
      .text " \x7b0:\x7d\x7b"
    ]
    scan message = .ok tokens ∧ LosesNothing message tokens ∧
      messageOf tokens = "\u00e9\x7b\x7ba\x7b7:n:int\x7d\x7d\x7bn\x7d \x7b0:\x7d\x7b" := by
  intro message tokens
  have scanned : scan message = .ok tokens := by
    cbv
  exact ⟨scanned, losesNothing_of_scan scanned, by decide +kernel⟩

end Phrasebook.Placeholder
