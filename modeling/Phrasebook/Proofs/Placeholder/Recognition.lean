import Phrasebook.Proofs.Placeholder.Shape

namespace Phrasebook.Placeholder

/-!
# The placeholders of a message

A candidate is an opening brace, a text without braces and a closing brace, wherever it stands in a
message. Scanning finds the candidates that are placeholders, all of them and no others, and keeps
the rest as text; it fails just if the type of some candidate does not exist. This settles the
tokens of a message, since a message can be scanned apart on both sides of an opening brace.
-/

/-! ## Candidates -/

/-- Whether a text stands between two braces at a place in a message, without further braces. -/
structure IsCandidate
    (message before content after : List Char) :
    Prop where
  place : message = before ++ '{' :: (content ++ '}' :: after)
  braceless : IsBraceless content

/-- Whether the type of some candidate does not exist. -/
def HasMistyped
    (message : List Char) :
    Prop :=
  ∃ before content after written further,
    IsCandidate message before content after ∧ IsMistyped content written further

/-- Whether a type that does not exist is that of the first such candidate. -/
def IsFirstMistyped
    (message : List Char)
    (unknown : UnknownType) :
    Prop :=
  ∃ before after further,
    IsCandidate message before unknown.content after ∧
    IsMistyped unknown.content unknown.type further ∧
    ¬HasMistyped before

/-- A candidate of a part of a message is one of the message. -/
theorem IsCandidate.surrounded
    {message before content after : List Char}
    (candidate : IsCandidate message before content after)
    (leading following : List Char) :
    IsCandidate (leading ++ message ++ following) (leading ++ before) content
      (after ++ following) := by
  obtain ⟨rfl, braceless⟩ := candidate
  exact ⟨by simp, braceless⟩

theorem HasMistyped.surrounded
    {message : List Char}
    (mistyped : HasMistyped message)
    (leading following : List Char) :
    HasMistyped (leading ++ message ++ following) := by
  obtain ⟨before, content, after, written, further, candidate, isMistyped⟩ := mistyped
  exact ⟨_, content, _, written, further, candidate.surrounded leading following, isMistyped⟩

theorem HasMistyped.append_left
    {message : List Char}
    (mistyped : HasMistyped message)
    (leading : List Char) :
    HasMistyped (leading ++ message) := by
  simpa using mistyped.surrounded leading []

/-- Where a brace closes, the text before it is settled. -/
theorem eq_of_append_close
    {first second firstAfter secondAfter : List Char}
    (firstBraceless : IsBraceless first)
    (secondBraceless : IsBraceless second)
    (same : first ++ '}' :: firstAfter = second ++ '}' :: secondAfter) :
    first = second ∧ firstAfter = secondAfter := by
  have found : candidate? (first ++ '}' :: firstAfter) = some (first, firstAfter) :=
    candidate?_eq_some_iff.mpr ⟨firstBraceless, rfl⟩
  have foundAgain : candidate? (first ++ '}' :: firstAfter) = some (second, secondAfter) :=
    candidate?_eq_some_iff.mpr ⟨secondBraceless, same⟩
  rw [found] at foundAgain
  cases foundAgain
  exact ⟨rfl, rfl⟩

/-! ## Scanning apart -/

theorem candidate?_append_brace
    (text rest : List Char) :
    candidate? (text ++ '{' :: rest) =
      (candidate? text).map fun found => (found.1, found.2 ++ '{' :: rest) := by
  induction text with
  | nil =>
      simp [candidate?]
  | cons character text inductionHypothesis =>
      rw [List.cons_append, candidate?, candidate?, inductionHypothesis]
      by_cases closes : character = '}'
      · simp [closes]
      · by_cases opens : character = '{'
        · simp [opens]
        · simp [closes, opens, Function.comp_def]

theorem map_bind_append
    {first rest : Except UnknownType (List Fragment)}
    {fragment : Fragment} :
    (first.bind fun earlier => rest.map (earlier ++ ·)).map (fragment :: ·) =
      (first.map (fragment :: ·)).bind fun earlier => rest.map (earlier ++ ·) := by
  cases first <;> cases rest <;> rfl

/-- A message is scanned apart on both sides of an opening brace. -/
theorem fragments_append_brace
    (before rest : List Char) :
    fragments (before ++ '{' :: rest) =
      (fragments before).bind fun earlier => (fragments ('{' :: rest)).map (earlier ++ ·) := by
  fun_induction fragments before with
  | case1 =>
      rw [List.nil_append]
      cases fragments ('{' :: rest) <;> rfl
  | case2 text noCandidate inductionHypothesis =>
      rw [List.cons_append, fragments_brace, inductionHypothesis, map_bind_append]
      simp [candidate?_append_brace, noCandidate]
  | case3 text content after candidate unknown refused =>
      obtain ⟨braceless, rfl⟩ := candidate?_eq_some_iff.mp candidate
      rw [List.cons_append, List.append_assoc, List.cons_append, fragments_candidate braceless,
        refused]
      rfl
  | case4 text content after candidate reference isReference inductionHypothesis =>
      obtain ⟨braceless, rfl⟩ := candidate?_eq_some_iff.mp candidate
      rw [List.cons_append, List.append_assoc, List.cons_append, fragments_candidate braceless,
        isReference]
      simp only
      rw [inductionHypothesis, map_bind_append]
  | case5 text content after candidate noReference inductionHypothesis =>
      rw [List.cons_append, fragments_brace, inductionHypothesis, map_bind_append]
      simp [candidate?_append_brace, candidate, noReference]
  | case6 character text noBrace inductionHypothesis =>
      rw [List.cons_append, fragments, if_neg noBrace, inductionHypothesis, map_bind_append]

/-! ## Messages that are refused -/

/-- A message with a candidate whose type does not exist is refused. -/
theorem fragments_of_hasMistyped
    {message : List Char}
    (mistyped : HasMistyped message) :
    ∃ unknown, fragments message = .error unknown := by
  obtain ⟨before, content, after, written, further, ⟨rfl, braceless⟩, isMistyped⟩ := mistyped
  have refused : referenceOf content = .error ⟨written, content⟩ :=
    referenceOf_eq_error_iff.mpr ⟨rfl, further, isMistyped⟩
  rw [fragments_append_brace, fragments_candidate braceless, refused]
  cases fragments before with
  | error unknown =>
      exact ⟨unknown, rfl⟩
  | ok earlier =>
      exact ⟨_, rfl⟩

theorem error_of_map_eq_error
    {computed : Except UnknownType (List Fragment)}
    {fragment : Fragment}
    {unknown : UnknownType}
    (failed : computed.map (fragment :: ·) = .error unknown) :
    computed = .error unknown := by
  cases computed with
  | error other =>
      cases failed
      rfl
  | ok found =>
      cases failed

theorem hasMistyped_of_fragments
    {message : List Char}
    {unknown : UnknownType}
    (failed : fragments message = .error unknown) :
    HasMistyped message := by
  fun_induction fragments message with
  | case1 =>
      cases failed
  | case2 text noCandidate inductionHypothesis
  | case5 text content after candidate noReference inductionHypothesis
  | case6 character text noBrace inductionHypothesis =>
      exact (inductionHypothesis (error_of_map_eq_error failed)).append_left [_]
  | case3 text content after candidate other refused =>
      obtain ⟨braceless, rfl⟩ := candidate?_eq_some_iff.mp candidate
      obtain ⟨-, further, isMistyped⟩ := referenceOf_eq_error_iff.mp refused
      exact ⟨[], content, after, other.type, further, ⟨rfl, braceless⟩, isMistyped⟩
  | case4 text content after candidate reference isReference inductionHypothesis =>
      obtain ⟨braceless, rfl⟩ := candidate?_eq_some_iff.mp candidate
      have further := inductionHypothesis (error_of_map_eq_error failed)
      simpa using further.append_left ('{' :: (content ++ ['}']))

/-- A message is refused for the first candidate whose type does not exist. -/
theorem isFirstMistyped_of_fragments
    {message : List Char}
    {unknown : UnknownType}
    (failed : fragments message = .error unknown) :
    IsFirstMistyped message unknown := by
  -- The text before a candidate that is refused is either scanned or refused itself.
  induction length : message.length using Nat.strongRecOn generalizing message with
  | ind size inductionHypothesis =>
      obtain ⟨before, content, after, written, further, ⟨rfl, braceless⟩, isMistyped⟩ :=
        hasMistyped_of_fragments failed
      have refused : referenceOf content = .error ⟨written, content⟩ :=
        referenceOf_eq_error_iff.mpr ⟨rfl, further, isMistyped⟩
      rw [fragments_append_brace, fragments_candidate braceless, refused] at failed
      cases scanned : fragments before with
      | ok earlier =>
          rw [scanned] at failed
          cases failed
          refine ⟨before, after, further, ⟨rfl, braceless⟩, isMistyped, fun mistyped => ?_⟩
          obtain ⟨other, refusedBefore⟩ := fragments_of_hasMistyped mistyped
          rw [scanned] at refusedBefore
          cases refusedBefore
      | error other =>
          rw [scanned] at failed
          cases failed
          have shorter : before.length < size := by
            rw [← length]
            simp
          obtain ⟨earlier, later, tail, candidate, firstMistyped, isFirst⟩ :=
            inductionHypothesis before.length shorter scanned rfl
          have inMessage := candidate.surrounded [] ('{' :: (content ++ '}' :: after))
          exact ⟨earlier, _, tail, by simpa using inMessage, firstMistyped, isFirst⟩

/-! ## Tokens along a message -/

/-- Tokens lie along a text if it consists of what they stand for, in their order: a text token of
itself, an argument of a placeholder between two braces. -/
inductive LieAlong :
    List Token →
    List Char →
    Prop where
  | nil :
      LieAlong [] []
  | text
      {run : String}
      {tokens : List Token}
      {rest : List Char}
      (further : LieAlong tokens rest) :
      LieAlong (.text run :: tokens) (run.toList ++ rest)
  | argument
      {reference : Reference}
      {content : List Char}
      {tokens : List Token}
      {rest : List Char}
      (placeholder : IsPlaceholder content reference)
      (further : LieAlong tokens rest) :
      LieAlong (.argument reference :: tokens) ('{' :: (content ++ '}' :: rest))

/-- Whether every candidate of a message that is a placeholder is one of some tokens, where those
before it lie along the text before it and those after it along the text after it. -/
def FindEvery
    (tokens : List Token)
    (message : List Char) :
    Prop :=
  ∀ before content after reference,
    IsCandidate message before content after →
    IsPlaceholder content reference →
    ∃ earlier later,
      tokens = earlier ++ .argument reference :: later ∧
      LieAlong earlier before ∧
      LieAlong later after

theorem lieAlong_flatten
    {tokens : List Token}
    {stretches : List (List Char)}
    (all : List.Forall₂ Token.IsFoundIn tokens stretches) :
    LieAlong tokens stretches.flatten := by
  induction all with
  | nil =>
      exact .nil
  | cons isFound further inductionHypothesis =>
      cases isFound with
      | text run =>
          exact .text inductionHypothesis
      | argument braceless read =>
          have placeholder := referenceOf_eq_some_iff.mp read
          simpa using LieAlong.argument placeholder inductionHypothesis

theorem lieAlong_grouped
    {text : List Char}
    {found : List Fragment}
    (scanned : fragments text = .ok found) :
    LieAlong (grouped [] found) text := by
  obtain ⟨stretches, all, rfl⟩ := exists_stretches scanned
  obtain ⟨tokenStretches, tokenAll, same⟩ := exists_stretches_grouped all []
  rw [List.reverse_nil, List.nil_append] at same
  rw [same]
  exact lieAlong_flatten tokenAll

theorem grouped_append_argument
    (pending : List Char)
    (earlier later : List Fragment)
    (reference : Reference) :
    grouped pending (earlier ++ .argument reference :: later) =
      grouped pending earlier ++ .argument reference :: grouped [] later := by
  induction earlier generalizing pending with
  | nil =>
      rfl
  | cons fragment rest inductionHypothesis =>
      cases fragment with
      | character single =>
          exact inductionHypothesis (single :: pending)
      | argument other =>
          simp [grouped, inductionHypothesis]

/-- A placeholder of a message is a fragment between those of the texts on both sides of it. -/
theorem exists_fragments_of_placeholder
    {message before content after : List Char}
    {found : List Fragment}
    {reference : Reference}
    (scanned : fragments message = .ok found)
    (candidate : IsCandidate message before content after)
    (placeholder : IsPlaceholder content reference) :
    ∃ earlier later,
      fragments before = .ok earlier ∧
      fragments after = .ok later ∧
      found = earlier ++ .argument reference :: later := by
  have read := referenceOf_eq_some_iff.mpr placeholder
  rw [candidate.place, fragments_append_brace, fragments_candidate candidate.braceless,
    read] at scanned
  cases scannedBefore : fragments before with
  | error unknown =>
      rw [scannedBefore] at scanned
      cases scanned
  | ok earlier =>
      cases scannedAfter : fragments after with
      | error unknown =>
          rw [scannedBefore, scannedAfter] at scanned
          cases scanned
      | ok later =>
          rw [scannedBefore, scannedAfter] at scanned
          cases scanned
          exact ⟨earlier, later, rfl, rfl, rfl⟩

theorem findEvery_grouped
    {message : List Char}
    {found : List Fragment}
    (scanned : fragments message = .ok found) :
    FindEvery (grouped [] found) message := by
  intro before content after reference candidate placeholder
  obtain ⟨earlier, later, scannedBefore, scannedAfter, rfl⟩ :=
    exists_fragments_of_placeholder scanned candidate placeholder
  exact ⟨grouped [] earlier, grouped [] later, grouped_append_argument [] earlier later reference,
    lieAlong_grouped scannedBefore, lieAlong_grouped scannedAfter⟩

/-! ## Tokens that find every placeholder -/

/-- The characters and placeholders of a token. -/
def Token.fragments :
    Token →
    List Fragment
  | .text run => run.toList.map .character
  | .argument reference => [.argument reference]

theorem grouped_characters
    (pending run : List Char)
    (found : List Fragment) :
    grouped pending (run.map .character ++ found) = grouped (run.reverse ++ pending) found := by
  induction run generalizing pending with
  | nil =>
      rfl
  | cons character run inductionHypothesis =>
      rw [List.map_cons, List.cons_append, grouped, inductionHypothesis]
      simp

/-- Tokens are put together again from their characters and placeholders. -/
theorem grouped_flatMap_fragments
    {tokens : List Token}
    (nonempty : Token.text "" ∉ tokens)
    (apart : tokens.IsChain Token.IsApart) :
    grouped [] (tokens.flatMap Token.fragments) = tokens := by
  induction tokens with
  | nil =>
      rfl
  | cons token rest inductionHypothesis =>
      rw [List.mem_cons, not_or] at nonempty
      have further := inductionHypothesis nonempty.2 apart.tail
      cases token with
      | argument reference =>
          rw [List.flatMap_cons, Token.fragments, List.singleton_append, grouped, further]
          rfl
      | text run =>
          have alone : textToken run.toList = [.text run] := by
            have notEmpty : run ≠ "" := fun empty => nonempty.1 (by rw [empty])
            simp [textToken, notEmpty]
          rw [List.flatMap_cons, Token.fragments, grouped_characters, List.append_nil]
          -- The next token is none of text, so the run ends where this token does.
          cases rest with
          | nil =>
              simpa [grouped] using alone
          | cons next others =>
              cases next with
              | text other =>
                  exact absurd ⟨trivial, trivial⟩ (List.isChain_cons_cons.mp apart).1
              | argument reference =>
                  rw [List.flatMap_cons, Token.fragments, List.singleton_append, grouped] at further
                  rw [List.flatMap_cons, Token.fragments, List.singleton_append, grouped,
                    List.reverse_reverse, alone]
                  exact congrArg (Token.text run :: ·) further

theorem fragments_text
    {run rest : List Char}
    (noReference :
      ∀ leading following,
        run = leading ++ '{' :: following →
        ∀ content, (candidate? (following ++ rest)).map Prod.fst = some content →
          referenceOf content = .ok none) :
    fragments (run ++ rest) = (fragments rest).map (run.map .character ++ ·) := by
  induction run with
  | nil =>
      rw [List.nil_append]
      cases fragments rest <;> rfl
  | cons character run inductionHypothesis =>
      have further :
          fragments (run ++ rest) = (fragments rest).map (run.map .character ++ ·) :=
        inductionHypothesis fun leading following shape =>
          noReference (character :: leading) following (by rw [shape]; rfl)
      have prepended :
          (fragments (run ++ rest)).map (.character character :: ·) =
            (fragments rest).map ((character :: run).map .character ++ ·) := by
        rw [further]
        cases fragments rest <;> rfl
      rw [← prepended, List.cons_append]
      by_cases opens : character = '{'
      · subst opens
        exact fragments_brace (noReference [] run rfl)
      · rw [fragments, if_neg opens]

/-- Behind a run of text, tokens still find every placeholder. -/
theorem FindEvery.of_text
    {run : String}
    {tokens : List Token}
    {rest : List Char}
    (every : FindEvery (.text run :: tokens) (run.toList ++ rest)) :
    FindEvery tokens rest := by
  intro before content after reference candidate placeholder
  have inMessage := candidate.surrounded run.toList []
  rw [List.append_nil, List.append_nil] at inMessage
  obtain ⟨earlier, later, shape, along, furtherAlong⟩ :=
    every _ content after reference inMessage placeholder
  cases earlier with
  | nil =>
      cases shape
  | cons first earlier =>
      cases shape
      generalize whole : run.toList ++ before = text at along
      cases along with
      | text along =>
          rw [List.append_cancel_left whole]
          exact ⟨earlier, later, rfl, along, furtherAlong⟩

/-- Behind a placeholder, tokens still find every placeholder. -/
theorem FindEvery.of_argument
    {reference : Reference}
    {content rest : List Char}
    {tokens : List Token}
    (every : FindEvery (.argument reference :: tokens) ('{' :: (content ++ '}' :: rest)))
    (placeholder : IsPlaceholder content reference) :
    FindEvery tokens rest := by
  intro before other after otherReference candidate otherPlaceholder
  have inMessage := candidate.surrounded ('{' :: (content ++ ['}'])) []
  simp only [List.append_nil, List.cons_append, List.append_assoc, List.nil_append] at inMessage
  obtain ⟨earlier, later, shape, along, furtherAlong⟩ :=
    every _ other after otherReference inMessage otherPlaceholder
  cases earlier with
  | nil =>
      cases along
  | cons first earlier =>
      cases shape
      generalize whole : '{' :: (content ++ '}' :: before) = text at along
      cases along with
      | argument samePlaceholder along =>
          obtain ⟨-, rfl⟩ := eq_of_append_close placeholder.shape.braceless
            samePlaceholder.shape.braceless (List.cons.inj whole).2
          exact ⟨earlier, later, rfl, along, furtherAlong⟩

/-- A brace in a run of text opens no placeholder. -/
theorem FindEvery.not_isPlaceholder
    {run : String}
    {tokens : List Token}
    {rest leading following content after : List Char}
    (every : FindEvery (.text run :: tokens) (run.toList ++ rest))
    (shape : run.toList = leading ++ '{' :: following)
    (candidate : IsCandidate (run.toList ++ rest) leading content after)
    (reference : Reference) :
    ¬IsPlaceholder content reference := by
  intro placeholder
  obtain ⟨earlier, later, tokensShape, along, -⟩ :=
    every _ _ _ reference candidate placeholder
  -- No token ends before the brace, which stands inside the first one.
  cases earlier with
  | nil =>
      cases tokensShape
  | cons first earlier =>
      cases tokensShape
      cases along
      have longer := congrArg List.length shape
      simp at longer

/-- If tokens lie along a message, find every placeholder, and no type is missing, then scanning
finds what they stand for. -/
theorem fragments_of_lieAlong
    {tokens : List Token}
    {message : List Char}
    (lie : LieAlong tokens message)
    (every : FindEvery tokens message)
    (noMistyped : ¬HasMistyped message) :
    fragments message = .ok (tokens.flatMap Token.fragments) := by
  induction lie with
  | nil =>
      rw [fragments, List.flatMap_nil]
  | @text run tokens rest lie inductionHypothesis =>
      have further := inductionHypothesis every.of_text fun mistyped =>
        noMistyped (mistyped.append_left run.toList)
      rw [fragments_text, further]
      · rfl
      · intro leading following shape content isCandidate
        obtain ⟨⟨_, after⟩, found, rfl⟩ := Option.map_eq_some_iff.mp isCandidate
        obtain ⟨braceless, place⟩ := candidate?_eq_some_iff.mp found
        have candidate : IsCandidate (run.toList ++ rest) leading _ after :=
          ⟨by rw [shape, List.append_assoc, List.cons_append, place], braceless⟩
        cases read : referenceOf _ with
        | error unknown =>
            obtain ⟨-, tail, isMistyped⟩ := referenceOf_eq_error_iff.mp read
            exact absurd ⟨_, _, _, _, tail, candidate, isMistyped⟩ noMistyped
        | ok reference =>
            cases reference with
            | none =>
                rfl
            | some reference =>
                exact absurd (referenceOf_eq_some_iff.mp read)
                  (every.not_isPlaceholder shape candidate reference)
  | @argument reference content tokens rest placeholder lie inductionHypothesis =>
      have further := inductionHypothesis (every.of_argument placeholder) fun mistyped =>
        noMistyped (by simpa using mistyped.append_left ('{' :: (content ++ ['}'])))
      rw [fragments_candidate placeholder.shape.braceless,
        referenceOf_eq_some_iff.mpr placeholder]
      simp only
      rw [further]
      rfl

/-! ## Main result -/

/-- Whether the arguments among some tokens are the placeholders of a message, all of them in
order, and everything else is text, each run in one token. -/
structure Recognize
    (tokens : List Token)
    (message : List Char) :
    Prop where
  lie : LieAlong tokens message
  every : FindEvery tokens message
  nonempty : Token.text "" ∉ tokens
  apart : tokens.IsChain Token.IsApart

/-- What settles the scan of a message: it is refused just if the type of some candidate does not
exist, and then for the first such candidate, and otherwise its tokens are those that recognize its
placeholders. -/
structure IsSettledByShapes
    (message : String) :
    Prop where
  refused : (∃ unknown, scan message = .error unknown) ↔ HasMistyped message.toList
  first : ∀ unknown, scan message = .error unknown → IsFirstMistyped message.toList unknown
  recognized :
    ∀ tokens,
      scan message = .ok tokens ↔
        ¬HasMistyped message.toList ∧ Recognize tokens message.toList

theorem scan_eq_error_iff
    {message : String}
    {unknown : UnknownType} :
    scan message = .error unknown ↔ fragments message.toList = .error unknown := by
  unfold scan
  cases fragments message.toList <;> simp [Except.map]

theorem scan_eq_ok_iff
    {message : String}
    {tokens : List Token} :
    scan message = .ok tokens ↔
      ∃ found, fragments message.toList = .ok found ∧ grouped [] found = tokens := by
  unfold scan
  cases fragments message.toList <;> simp [Except.map]

/-- The tokens of a message recognize its placeholders. -/
theorem recognize_of_scan
    {message : String}
    {tokens : List Token}
    (scanned : scan message = .ok tokens) :
    Recognize tokens message.toList := by
  obtain ⟨found, foundScanned, rfl⟩ := scan_eq_ok_iff.mp scanned
  exact ⟨lieAlong_grouped foundScanned, findEvery_grouped foundScanned,
    empty_not_mem_grouped [] found, isChain_grouped [] found⟩

/-- The scan of every message is settled by the shapes of its candidates. -/
theorem isSettledByShapes
    (message : String) :
    IsSettledByShapes message := by
  refine ⟨⟨?_, fun mistyped => ?_⟩, fun unknown failed => ?_, fun tokens => ⟨fun scanned => ?_, ?_⟩⟩
  · rintro ⟨unknown, failed⟩
    exact hasMistyped_of_fragments (scan_eq_error_iff.mp failed)
  · obtain ⟨unknown, failed⟩ := fragments_of_hasMistyped mistyped
    exact ⟨unknown, scan_eq_error_iff.mpr failed⟩
  · exact isFirstMistyped_of_fragments (scan_eq_error_iff.mp failed)
  · refine ⟨fun mistyped => ?_, recognize_of_scan scanned⟩
    obtain ⟨unknown, failed⟩ := fragments_of_hasMistyped mistyped
    rw [scan_eq_error_iff.mpr failed] at scanned
    cases scanned
  · rintro ⟨noMistyped, recognize⟩
    have found := fragments_of_lieAlong recognize.lie recognize.every noMistyped
    have regrouped := grouped_flatMap_fragments recognize.nonempty recognize.apart
    exact scan_eq_ok_iff.mpr ⟨_, found, regrouped⟩

/-- A text of just three parts has two colons. -/
theorem IsMistyped.count_colon
    {content written : List Char}
    (mistyped : IsMistyped content written []) :
    content.count ':' = 2 := by
  obtain ⟨decimal, -, isName, noColon, -, -⟩ := mistyped
  have digitsPlain := List.count_eq_zero.mpr (isPlainPart_of_isNumber decimal).noColon
  have namePlain := List.count_eq_zero.mpr (isPlainPart_of_isName isName).noColon
  have typePlain := List.count_eq_zero.mpr noColon
  simp [digitsPlain, namePlain, typePlain]

/-- A text of four parts has the shape of no placeholder, and is kept if its third part is a type.
If that part is none, the message is refused, although no candidate has just three parts. -/
theorem refused_for_third_of_four_parts :
    scan "\x7b0:n:int:x\x7d" = .ok [.text "\x7b0:n:int:x\x7d"] ∧
      scan "\x7b0:n:date:x\x7d" = .error ⟨"date".toList, "0:n:date:x".toList⟩ ∧
      ∀ before content after written,
        IsCandidate "\x7b0:n:date:x\x7d".toList before content after →
        ¬IsMistyped content written [] := by
  refine ⟨by cbv, by cbv, ?_⟩
  rintro before content after written ⟨place, braceless⟩ mistyped
  have spelled : "\x7b0:n:date:x\x7d".toList = '{' :: ("0:n:date:x".toList ++ ['}']) := by decide
  rw [spelled] at place
  have only : content = "0:n:date:x".toList := by
    cases before with
    | nil =>
        have noBrace : IsBraceless "0:n:date:x".toList := by simp [IsBraceless, isBrace]
        exact (eq_of_append_close braceless noBrace (List.cons.inj place).2.symm).1
    | cons first before =>
        have absent : '{' ∉ "0:n:date:x".toList ++ ['}'] := by decide
        rw [(List.cons.inj place).2] at absent
        exact absurd (by simp) absent
  have count := mistyped.count_colon
  rw [only] at count
  revert count
  decide

end Phrasebook.Placeholder
