import Phrasebook.Identifier
import Phrasebook.Proofs.Text.LetterCase
import Phrasebook.Proofs.Text.Separation
import Phrasebook.Text.Whitespace

namespace Phrasebook.Identifier

open LanguageTag

/-!
# Names in camel case and in snake case

In a name in camel case each capital starts a word, and none directly follows another. Snake case
writes such a name with an underscore before each capital but the first, which can be taken back.
-/

/-! ## Splitting -/

theorem splitOnP_congr
    {α : Type}
    {first second : α → Bool}
    {list : List α}
    (same : ∀ element ∈ list, first element = second element) :
    list.splitOnP first = list.splitOnP second := by
  induction list with
  | nil =>
      rfl
  | cons element rest inductionHypothesis =>
      rw [List.forall_mem_cons] at same
      rw [List.splitOnP_cons_eq_if_modifyHead, List.splitOnP_cons_eq_if_modifyHead, same.1,
        inductionHypothesis same.2]

/-- What is split is kept, separators apart. -/
theorem mem_of_mem_splitOnP
    {α : Type}
    {separates : α → Bool}
    {list part : List α}
    {element : α}
    (partMember : part ∈ list.splitOnP separates)
    (member : element ∈ part) :
    element ∈ list ∧ separates element = false := by
  induction list generalizing part with
  | nil =>
      rw [List.splitOnP_nil, List.mem_singleton] at partMember
      subst partMember
      cases member
  | cons head rest inductionHypothesis =>
      rw [List.splitOnP_cons_eq_if_modifyHead] at partMember
      split at partMember
      · rcases List.mem_cons.mp partMember with rfl | later
        · cases member
        · obtain ⟨found, apart⟩ := inductionHypothesis later member
          exact ⟨List.mem_cons_of_mem head found, apart⟩
      · rename_i headApart
        obtain ⟨first, others, shape⟩ :=
          List.exists_cons_of_ne_nil (List.splitOnP_ne_nil separates rest)
        rw [shape, List.modifyHead_cons] at partMember
        rw [shape] at inductionHypothesis
        rcases List.mem_cons.mp partMember with rfl | later
        · rcases List.mem_cons.mp member with rfl | inFirst
          · exact ⟨List.mem_cons_self, by simpa using headApart⟩
          · obtain ⟨found, apart⟩ := inductionHypothesis List.mem_cons_self inFirst
            exact ⟨List.mem_cons_of_mem head found, apart⟩
        · obtain ⟨found, apart⟩ :=
            inductionHypothesis (List.mem_cons_of_mem first later) member
          exact ⟨List.mem_cons_of_mem head found, apart⟩

/-- What is no separator is kept. -/
theorem exists_mem_splitOnP
    {α : Type}
    {separates : α → Bool}
    {list : List α}
    {element : α}
    (member : element ∈ list)
    (apart : separates element = false) :
    ∃ part ∈ list.splitOnP separates, element ∈ part := by
  induction list with
  | nil =>
      cases member
  | cons head rest inductionHypothesis =>
      rw [List.splitOnP_cons_eq_if_modifyHead]
      rcases List.mem_cons.mp member with rfl | later
      · obtain ⟨first, others, shape⟩ :=
          List.exists_cons_of_ne_nil (List.splitOnP_ne_nil separates rest)
        rw [if_neg (by simp [apart]), shape, List.modifyHead_cons]
        exact ⟨_, List.mem_cons_self, List.mem_cons_self⟩
      · obtain ⟨part, partMember, inPart⟩ := inductionHypothesis later
        split
        · exact ⟨part, List.mem_cons_of_mem [] partMember, inPart⟩
        · obtain ⟨first, others, shape⟩ :=
            List.exists_cons_of_ne_nil (List.splitOnP_ne_nil separates rest)
          rw [shape] at partMember ⊢
          rw [List.modifyHead_cons]
          rcases List.mem_cons.mp partMember with rfl | inOthers
          · exact ⟨_, List.mem_cons_self, List.mem_cons_of_mem head inPart⟩
          · exact ⟨part, List.mem_cons_of_mem _ inOthers, inPart⟩

theorem splitOnP_map
    {α β : Type}
    (separates : β → Bool)
    (transform : α → β)
    (list : List α) :
    (list.map transform).splitOnP separates =
      (list.splitOnP fun element => separates (transform element)).map (List.map transform) := by
  induction list with
  | nil =>
      rfl
  | cons element rest inductionHypothesis =>
      rw [List.map_cons, List.splitOnP_cons_eq_if_modifyHead,
        List.splitOnP_cons_eq_if_modifyHead, inductionHypothesis]
      split
      · rfl
      · obtain ⟨first, others, shape⟩ :=
          List.exists_cons_of_ne_nil
            (List.splitOnP_ne_nil (fun element => separates (transform element)) rest)
        rw [shape]
        rfl

/-- The first part of what is split is all of it or ends at a separator. -/
theorem of_splitOnP_eq_cons
    {α : Type}
    {separates : α → Bool}
    {list first : List α}
    {others : List (List α)}
    (split : list.splitOnP separates = first :: others) :
    list = first ∨ ∃ separator rest, separates separator ∧ list = first ++ separator :: rest := by
  induction list generalizing first others with
  | nil =>
      rw [List.splitOnP_nil] at split
      cases split
      exact .inl rfl
  | cons head rest inductionHypothesis =>
      rw [List.splitOnP_cons_eq_if_modifyHead] at split
      split at split
      · rename_i separates
        cases split
        exact .inr ⟨head, rest, separates, rfl⟩
      · obtain ⟨restFirst, restOthers, restSplit⟩ :=
          List.exists_cons_of_ne_nil (List.splitOnP_ne_nil separates rest)
        rw [restSplit, List.modifyHead_cons] at split
        cases split
        rcases inductionHypothesis restSplit with rfl | ⟨separator, further, separates, rfl⟩
        · exact .inl rfl
        · exact .inr ⟨separator, further, separates, rfl⟩

/-- Whether a character separates the segments of a text. -/
def IsSeparator
    (character : Char) :
    Prop :=
  character = '.' ∨ character = '_' ∨ character = '-'

instance :
    DecidablePred IsSeparator :=
  fun character =>
    inferInstanceAs (Decidable (character = '.' ∨ character = '_' ∨ character = '-'))

theorem segments_eq_splitOnP
    (text : List Char) :
    segments text = (text.splitOnP (decide <| IsSeparator ·)).filter (!·.isEmpty) := by
  rw [segments]
  congr 2
  funext character
  rw [Bool.eq_iff_iff, decide_eq_true_iff]
  simp [IsSeparator, or_assoc]

theorem segments_of_noSeparator
    {text : List Char}
    (nonempty : text ≠ [])
    (noSeparator : ∀ character ∈ text, ¬IsSeparator character) :
    segments text = [text] := by
  have apart : ∀ character ∈ text, decide (IsSeparator character) = false :=
    fun character member => decide_eq_false (noSeparator character member)
  rw [segments_eq_splitOnP, List.splitOnP_eq_singleton apart]
  simp [nonempty]

theorem segments_append_separator
    {separator : Char}
    (isSeparator : IsSeparator separator)
    (text rest : List Char) :
    segments (text ++ separator :: rest) = segments text ++ segments rest := by
  have split :=
    List.splitOnP_append_cons (p := (decide <| IsSeparator ·)) text rest
      (decide_eq_true isSeparator)
  rw [segments_eq_splitOnP, split, List.filter_append, ← segments_eq_splitOnP,
    ← segments_eq_splitOnP]

/-- What keeps separators apart from all else can be done segment by segment. -/
theorem segments_map
    {transform : Char → Char}
    {text : List Char}
    (keeps : ∀ character ∈ text, IsSeparator (transform character) ↔ IsSeparator character) :
    segments (text.map transform) = (segments text).map (List.map transform) := by
  have same :
      text.splitOnP (fun character => decide (IsSeparator (transform character))) =
        text.splitOnP (decide <| IsSeparator ·) :=
    splitOnP_congr fun character inText => decide_eq_decide.mpr (keeps character inText)
  rw [segments_eq_splitOnP, splitOnP_map, same, List.filter_map, segments_eq_splitOnP]
  congr 2
  funext segment
  simp

theorem noSeparator_of_isAlphanumeric
    {character : Char}
    (alphanumeric : isAlphanumeric character) :
    ¬IsSeparator character := by
  rintro (rfl | rfl | rfl) <;> exact absurd alphanumeric (by decide)

/-- The segments of a text are not empty and hold its characters that are no separators. -/
theorem of_mem_segments
    {text segment : List Char}
    (isSegment : segment ∈ segments text) :
    segment ≠ [] ∧ ∀ character ∈ segment, character ∈ text ∧ ¬IsSeparator character := by
  rw [segments_eq_splitOnP] at isSegment
  obtain ⟨isPart, nonempty⟩ := List.mem_filter.mp isSegment
  refine ⟨by simpa using nonempty, fun character inSegment => ?_⟩
  obtain ⟨inText, apart⟩ := mem_of_mem_splitOnP isPart inSegment
  exact ⟨inText, of_decide_eq_false apart⟩

theorem exists_mem_segments
    {text : List Char}
    {character : Char}
    (inText : character ∈ text)
    (noSeparator : ¬IsSeparator character) :
    ∃ segment ∈ segments text, character ∈ segment := by
  rw [segments_eq_splitOnP]
  obtain ⟨part, isPart, inPart⟩ :
      ∃ part ∈ text.splitOnP (decide <| IsSeparator ·), character ∈ part :=
    exists_mem_splitOnP inText (decide_eq_false noSeparator)
  refine ⟨part, List.mem_filter.mpr ⟨isPart, ?_⟩, inPart⟩
  simpa using List.ne_nil_of_mem inPart

/-! ## Camel case -/

/-- Whether a text goes on in camel case: a capital only directly after something small, which is
a lowercase letter or a digit. -/
def isCamelFrom
    (afterSmall : Bool) :
    List Char →
    Bool
  | [] => true
  | character :: text =>
      isAlphanumeric character && (!character.isUpper || afterSmall) &&
        isCamelFrom (!character.isUpper) text

/-- A name in camel case that starts with a capital. -/
inductive IsUpperCamel :
    List Char →
    Prop where
  | intro (lead : Char) (text : List Char) (capital : lead.isUpper)
      (camel : isCamelFrom false text) :
      IsUpperCamel (lead :: text)

theorem isAlphanumeric_of_isCamelFrom
    {afterSmall : Bool}
    {text : List Char}
    (camel : isCamelFrom afterSmall text) :
    text.all isAlphanumeric := by
  induction text generalizing afterSmall with
  | nil =>
      rfl
  | cons character text inductionHypothesis =>
      rw [isCamelFrom, Bool.and_eq_true, Bool.and_eq_true] at camel
      rw [List.all_cons, Bool.and_eq_true]
      exact ⟨camel.1.1, inductionHypothesis camel.2⟩

theorem IsUpperCamel.isAlphanumeric
    {name : List Char}
    (camel : IsUpperCamel name) :
    name.all isAlphanumeric := by
  cases camel with
  | intro lead text capital camel =>
      rw [List.all_cons, Bool.and_eq_true]
      exact ⟨Text.isAlphanumeric_of_isUpper capital, isAlphanumeric_of_isCamelFrom camel⟩

theorem isPart_of_isAlphanumeric
    {character : Char}
    (alphanumeric : isAlphanumeric character) :
    isPart character :=
  Bool.or_eq_true_iff.mpr (.inl alphanumeric)

/-- A name with a capital first is an identifier, unless it is `Self`. -/
theorem isLegal_of_capital
    {name : String}
    {lead : Char}
    {text : List Char}
    (letters : name.toList = lead :: text)
    (capital : lead.isUpper)
    (parts : text.all isPart)
    (noSelf : name ≠ "Self") :
    isLegal name := by
  have shape : isName name.toList := by
    rw [letters, isName, parts]
    simp [isLead, Char.isAlpha, capital]
  have noUnderscore : name ≠ "_" := by
    rintro rfl
    cases letters
    revert capital
    decide
  have capitals :
      ∀ word ∈ reservedWords,
        word = "Self" ∨ (word.toList.head?.any Char.isUpper) = false := by
    decide
  have noWord : name ∉ reservedWords := by
    intro member
    rcases capitals name member with same | noCapital
    · exact noSelf same
    · rw [letters] at noCapital
      simp [capital] at noCapital
  simp [Identifier.isLegal, shape, noUnderscore, noWord]

theorem IsUpperCamel.isLegal
    {name : String}
    (camel : IsUpperCamel name.toList)
    (noSelf : name ≠ "Self") :
    isLegal name := by
  generalize letters : name.toList = text at camel
  cases camel with
  | intro lead text capital camel =>
      have parts : text.all isPart :=
        List.all_eq_true.mpr fun character member =>
          isPart_of_isAlphanumeric
            (List.all_eq_true.mp (isAlphanumeric_of_isCamelFrom camel) character member)
      exact isLegal_of_capital letters capital parts noSelf

/-! ## Capitalized segments -/

/-- Small characters after something that keep camel case. -/
theorem isCamelFrom_append_small
    {small text : List Char}
    (afterSmall : Bool)
    (nonempty : small ≠ [])
    (isSmall : ∀ character ∈ small, isAlphanumeric character ∧ character.isUpper = false)
    (camel : isCamelFrom true text) :
    isCamelFrom afterSmall (small ++ text) := by
  induction small generalizing afterSmall with
  | nil =>
      exact absurd rfl nonempty
  | cons character small inductionHypothesis =>
      rw [List.forall_mem_cons] at isSmall
      obtain ⟨⟨alphanumeric, noCapital⟩, further⟩ := isSmall
      have rest : isCamelFrom true (small ++ text) := by
        by_cases last : small = []
        · rw [last, List.nil_append]
          exact camel
        · exact inductionHypothesis true last further
      simp [isCamelFrom, alphanumeric, noCapital, rest]

/-- A segment of at least two letters or digits. -/
structure IsSegment
    (segment : List Char) :
    Prop where
  alphanumeric : segment.all isAlphanumeric
  twoLong : 2 ≤ segment.length

theorem capitalized_of_ascii
    {lead : Char}
    {rest : List Char}
    (ascii : ∀ character ∈ lead :: rest, character.toNat < 0x80) :
    capitalized (Text.lowercaseText (lead :: rest)) =
      lead.toLower.toUpper :: rest.map Char.toLower := by
  have lowered : lead.toLower.toNat < 0x80 := by
    have known :=
      Text.of_ascii (fun character => decide (character.toLower.toNat < 0x80))
        (by decide +kernel) (List.forall_mem_cons.mp ascii).1
    exact of_decide_eq_true known
  rw [Text.lowercaseText_of_ascii ascii, List.map_cons, capitalized,
    Text.uppercase_of_ascii lowered]
  rfl

theorem IsSegment.ascii
    {segment : List Char}
    (isSegment : IsSegment segment) :
    segment ≠ [] ∧ ∀ character ∈ segment, character.toNat < 0x80 := by
  constructor
  · rintro rfl
    exact absurd isSegment.twoLong (by decide)
  · exact Text.ascii_of_all_isAlphanumeric isSegment.alphanumeric

theorem capitalized_of_isSegment
    {lead : Char}
    {rest : List Char}
    (isSegment : IsSegment (lead :: rest)) :
    capitalized (Text.lowercaseText (lead :: rest)) =
      lead.toLower.toUpper :: rest.map Char.toLower :=
  capitalized_of_ascii isSegment.ascii.2

theorem small_of_mem_map_toLower
    {rest : List Char}
    (alphanumeric : rest.all isAlphanumeric) :
    ∀ character ∈ rest.map Char.toLower,
      isAlphanumeric character ∧ character.isUpper = false := by
  intro character member
  obtain ⟨original, originalMember, rfl⟩ := List.mem_map.mp member
  have known := List.all_eq_true.mp alphanumeric original originalMember
  have small :=
    Text.of_isAlphanumeric
      (fun character =>
        isAlphanumeric character.toLower && !character.toLower.isUpper)
      (by decide +kernel) known
  simpa using small

/-- Capitalized segments go on in camel case. -/
theorem isCamelFrom_segments
    {segments : List (List Char)}
    (areSegments : ∀ segment ∈ segments, IsSegment segment) :
    isCamelFrom true
      (segments.flatMap fun segment => capitalized (Text.lowercaseText segment)) := by
  induction segments with
  | nil =>
      rfl
  | cons segment segments inductionHypothesis =>
      rw [List.forall_mem_cons] at areSegments
      obtain ⟨isSegment, further⟩ := areSegments
      have camel := inductionHypothesis further
      cases segment with
      | nil =>
          exact absurd isSegment.twoLong (by decide)
      | cons lead rest =>
          have alphanumeric := isSegment.alphanumeric
          rw [List.all_cons, Bool.and_eq_true] at alphanumeric
          have nonempty : rest.map Char.toLower ≠ [] := by
            intro isEmpty
            have short := isSegment.twoLong
            rw [List.map_eq_nil_iff] at isEmpty
            simp [isEmpty] at short
          have leadKnown : isAlphanumeric lead.toLower.toUpper :=
            Text.of_isAlphanumeric
              (fun character => isAlphanumeric character.toLower.toUpper)
              (by decide +kernel) alphanumeric.1
          have continued :=
            isCamelFrom_append_small (!lead.toLower.toUpper.isUpper) nonempty
              (small_of_mem_map_toLower alphanumeric.2) camel
          rw [List.flatMap_cons, capitalized_of_isSegment isSegment, List.cons_append,
            isCamelFrom, continued, leadKnown]
          simp

/-- Capitalized segments of which the first starts with a letter are in camel case. -/
theorem isUpperCamel_segments
    {lead : Char}
    {rest : List Char}
    {segments : List (List Char)}
    (letter : lead.isAlpha)
    (isSegment : IsSegment (lead :: rest))
    (areSegments : ∀ segment ∈ segments, IsSegment segment) :
    IsUpperCamel
      (((lead :: rest) :: segments).flatMap fun segment =>
        capitalized (Text.lowercaseText segment)) := by
  have alphanumeric := isSegment.alphanumeric
  rw [List.all_cons, Bool.and_eq_true] at alphanumeric
  have capital := Text.isUpper_toUpper_toLower letter
  have nonempty : rest.map Char.toLower ≠ [] := by
    intro isEmpty
    have short := isSegment.twoLong
    rw [List.map_eq_nil_iff] at isEmpty
    simp [isEmpty] at short
  rw [List.flatMap_cons, capitalized_of_isSegment isSegment, List.cons_append]
  exact .intro _ _ capital
    (isCamelFrom_append_small false nonempty (small_of_mem_map_toLower alphanumeric.2)
      (isCamelFrom_segments areSegments))

/-! ## Snake case -/

/-- How snake case writes a character of a name in camel case after the first. -/
def snakePart
    (character : Char) :
    List Char :=
  if character.isUpper then
    ['_', character.toLower]
  else
    [character]

theorem wordsFrom_ne_nil
    (word : List Char)
    (afterLowercase : Bool)
    (segment : List Char) :
    wordsFrom word afterLowercase segment ≠ [] := by
  induction segment generalizing word afterLowercase with
  | nil =>
      simp [wordsFrom]
  | cons character segment inductionHypothesis =>
      rw [wordsFrom]
      split
      · simp
      · exact inductionHypothesis _ _

theorem toLower_of_not_isUpper
    {character : Char}
    (noCapital : character.isUpper = false) :
    character.toLower = character := by
  unfold Char.toLower
  simp only [Char.isUpper, decide_eq_false_iff_not, ge_iff_le] at noCapital
  exact dif_neg noCapital

/-- The words of a name in camel case, with an underscore between neighbours. -/
theorem intercalate_wordsFrom
    (word : List Char)
    {afterSmall : Bool}
    {text : List Char}
    (camel : isCamelFrom afterSmall text) :
    ['_'].intercalate (wordsFrom word afterSmall text) = word ++ text.flatMap snakePart := by
  induction text generalizing word afterSmall with
  | nil =>
      simp [wordsFrom]
  | cons character text inductionHypothesis =>
      simp only [isCamelFrom, Bool.and_eq_true] at camel
      obtain ⟨⟨alphanumeric, allowed⟩, further⟩ := camel
      have upper := Text.isUppercase_of_isAlphanumeric alphanumeric
      have small :
          (Text.isLowercase character || character.isDigit) = !character.isUpper := by
        rw [Text.isLowercase_of_isAlphanumeric alphanumeric]
        exact beq_iff_eq.mp
          (Text.of_isAlphanumeric
            (fun character =>
              (character.isLower || character.isDigit) == !character.isUpper)
            (by decide +kernel) alphanumeric)
      rw [wordsFrom]
      simp only [upper, small, Text.lowercase_of_isAlphanumeric alphanumeric]
      by_cases capital : character.isUpper
      · have afterIsSmall : afterSmall = true := by simpa [capital] using allowed
        rw [if_pos (by simp [capital, afterIsSmall]),
          List.intercalate_cons_of_ne_nil (wordsFrom_ne_nil _ _ _), inductionHypothesis _ further]
        simp [snakePart, capital]
      · have noCapital : character.isUpper = false := by simpa using capital
        rw [if_neg (by simp [noCapital]), inductionHypothesis _ further,
          toLower_of_not_isUpper noCapital]
        simp [snakePart, noCapital]

theorem snakeCase_of_camel
    {lead : Char}
    {text : List Char}
    (capital : lead.isUpper)
    (camel : isCamelFrom false text) :
    snakeCase (lead :: text) = lead.toLower :: text.flatMap snakePart := by
  have alphanumeric : (lead :: text).all isAlphanumeric :=
    (IsUpperCamel.intro lead text capital camel).isAlphanumeric
  have oneSegment : segments (lead :: text) = [lead :: text] :=
    segments_of_noSeparator (List.cons_ne_nil lead text) fun character member =>
      noSeparator_of_isAlphanumeric (List.all_eq_true.mp alphanumeric character member)
  rw [List.all_cons, Bool.and_eq_true] at alphanumeric
  have leadLowercase : (Text.isLowercase lead || lead.isDigit) = false := by
    have known :=
      Text.of_isAlphanumeric
        (fun character =>
          !character.isUpper || !(Text.isLowercase character || character.isDigit))
        (by decide +kernel) alphanumeric.1
    simpa [capital] using known
  have words : segmentWords (lead :: text) = wordsFrom [lead.toLower] false text := by
    rw [segmentWords, wordsFrom]
    simp only [leadLowercase, Text.lowercase_of_isAlphanumeric alphanumeric.1]
    simp
  rw [snakeCase, oneSegment, List.flatMap_cons, List.flatMap_nil, List.append_nil, words,
    intercalate_wordsFrom _ camel]
  rfl

/-- What snake case makes of the characters of a name tells what they are. -/
theorem flatMap_snakePart_injective
    {first second : List Char}
    (firstKnown : first.all isAlphanumeric)
    (secondKnown : second.all isAlphanumeric)
    (same : first.flatMap snakePart = second.flatMap snakePart) :
    first = second := by
  induction first generalizing second with
  | nil =>
      cases second with
      | nil =>
          rfl
      | cons character second =>
          rw [List.flatMap_cons, snakePart] at same
          split at same <;> cases same
  | cons character first inductionHypothesis =>
      cases second with
      | nil =>
          rw [List.flatMap_cons, snakePart] at same
          split at same <;> cases same
      | cons other second =>
          rw [List.all_cons, Bool.and_eq_true] at firstKnown secondKnown
          have noUnderscore :
              ∀ {part : Char}, isAlphanumeric part → part ≠ '_' := by
            rintro part known rfl
            revert known
            decide
          have sameHead :
              character = other ∧ first.flatMap snakePart = second.flatMap snakePart := by
            rw [List.flatMap_cons, List.flatMap_cons, snakePart, snakePart] at same
            split at same
            · rename_i capital
              split at same
              · rename_i otherCapital
                simp only [List.cons_append, List.nil_append, List.cons.injEq, true_and] at same
                refine ⟨?_, same.2⟩
                rw [← Text.toUpper_toLower_of_isUpper capital, same.1,
                  Text.toUpper_toLower_of_isUpper otherCapital]
              · simp only [List.cons_append, List.nil_append, List.cons.injEq] at same
                exact absurd same.1.symm (noUnderscore secondKnown.1)
            · split at same
              · simp only [List.cons_append, List.nil_append, List.cons.injEq] at same
                exact absurd same.1 (noUnderscore firstKnown.1)
              · simp only [List.cons_append, List.nil_append, List.cons.injEq] at same
                exact same
          rw [sameHead.1, inductionHypothesis firstKnown.2 secondKnown.2 sameHead.2]

/-- Names in camel case with a capital first differ in snake case. -/
theorem snakeCase_injective
    {first second : List Char}
    (firstCamel : IsUpperCamel first)
    (secondCamel : IsUpperCamel second)
    (same : snakeCase first = snakeCase second) :
    first = second := by
  cases firstCamel with
  | intro lead text capital camel =>
      cases secondCamel with
      | intro otherLead otherText otherCapital otherCamel =>
          rw [snakeCase_of_camel capital camel, snakeCase_of_camel otherCapital otherCamel,
            List.cons.injEq] at same
          have sameLead : lead = otherLead := by
            rw [← Text.toUpper_toLower_of_isUpper capital, same.1,
              Text.toUpper_toLower_of_isUpper otherCapital]
          have sameText : text = otherText :=
            flatMap_snakePart_injective (isAlphanumeric_of_isCamelFrom camel)
              (isAlphanumeric_of_isCamelFrom otherCamel) same.2
          rw [sameLead, sameText]

/-- The words of a segment of letters and digits are of parts of names. -/
theorem isPart_of_mem_wordsFrom
    {word segment : List Char}
    (afterLowercase : Bool)
    (wordParts : word.all isPart)
    (alphanumeric : segment.all isAlphanumeric) :
    ∀ written ∈ wordsFrom word afterLowercase segment, written.all isPart := by
  induction segment generalizing word afterLowercase with
  | nil =>
      rw [wordsFrom]
      simpa using wordParts
  | cons character segment inductionHypothesis =>
      rw [List.all_cons, Bool.and_eq_true] at alphanumeric
      have lowered : isPart character.toLower :=
        Text.of_isAlphanumeric (fun character => isPart character.toLower)
          (by decide +kernel) alphanumeric.1
      rw [wordsFrom]
      simp only [Text.lowercase_of_isAlphanumeric alphanumeric.1]
      split
      · refine List.forall_mem_cons.mpr ⟨wordParts, inductionHypothesis _ ?_ alphanumeric.2⟩
        simpa using lowered
      · refine inductionHypothesis _ ?_ alphanumeric.2
        rw [List.all_append, wordParts]
        simpa using lowered

/-- The words of a segment hold its characters in lowercase, in order. -/
theorem flatten_wordsFrom
    (word : List Char)
    (afterLowercase : Bool)
    (segment : List Char) :
    (wordsFrom word afterLowercase segment).flatten = word ++ segment.flatMap Text.lowercase := by
  induction segment generalizing word afterLowercase with
  | nil =>
      simp [wordsFrom]
  | cons character segment inductionHypothesis =>
      rw [wordsFrom]
      split
      · rw [List.flatten_cons, inductionHypothesis, List.flatMap_cons]
      · rw [inductionHypothesis, List.flatMap_cons, List.append_assoc]

/-- Snake case loses no character but separators. -/
theorem mem_snakeCase
    {text : List Char}
    {character lowered : Char}
    (inText : character ∈ text)
    (noSeparator : ¬IsSeparator character)
    (inLowercase : lowered ∈ Text.lowercase character) :
    lowered ∈ snakeCase text := by
  obtain ⟨segment, isSegment, inSegment⟩ := exists_mem_segments inText noSeparator
  have inWords : lowered ∈ (segmentWords segment).flatten := by
    rw [segmentWords, flatten_wordsFrom, List.nil_append]
    exact List.mem_flatMap.mpr ⟨character, inSegment, inLowercase⟩
  obtain ⟨word, isWord, inWord⟩ := List.mem_flatten.mp inWords
  exact Text.mem_intercalate (List.mem_flatMap.mpr ⟨segment, isSegment, isWord⟩) inWord

/-- Snake case keeps a name made of parts of names. -/
theorem isPart_of_mem_snakeCase
    {name : List Char}
    (parts : name.all isPart) :
    (snakeCase name).all isPart := by
  refine List.all_eq_true.mpr fun part member => ?_
  rcases Text.mem_of_mem_intercalate member with isUnderscore | ⟨word, isWord, inWord⟩
  · rw [List.mem_singleton.mp isUnderscore]
    rfl
  obtain ⟨segment, isSegment, isWord⟩ := List.mem_flatMap.mp isWord
  have alphanumeric : segment.all isAlphanumeric := by
    refine List.all_eq_true.mpr fun character inSegment => ?_
    obtain ⟨inName, noSeparator⟩ := (of_mem_segments isSegment).2 character inSegment
    have isPart := List.all_eq_true.mp parts character inName
    rcases Bool.or_eq_true_iff.mp isPart with known | underscore
    · exact known
    · exact absurd (.inr (.inl (beq_iff_eq.mp underscore))) noSeparator
  exact List.all_eq_true.mp (isPart_of_mem_wordsFrom false rfl alphanumeric word isWord) part inWord

/-! ## Legal names -/

theorem isPart_of_isLead
    {character : Char}
    (isLead : isLead character) :
    isPart character := by
  rw [Identifier.isLead, Bool.or_eq_true] at isLead
  rcases isLead with letter | underscore
  · simp [isPart, letter]
  · simp [isPart, underscore]

/-- All of a name are parts of names. -/
theorem isPart_of_isName
    {name : List Char}
    (shape : isName name) :
    name.all isPart := by
  cases name with
  | nil =>
      rfl
  | cons lead rest =>
      rw [isName, Bool.and_eq_true] at shape
      rw [List.all_cons, isPart_of_isLead shape.1, shape.2]
      rfl

/-- A legal name is not empty, and all of it are parts of names. -/
theorem isPart_of_isLegal
    {name : String}
    (legal : isLegal name) :
    name ≠ "" ∧ name.toList.all isPart := by
  simp only [isLegal, Bool.and_eq_true] at legal
  refine ⟨?_, isPart_of_isName legal.1.2⟩
  rintro rfl
  cases legal.1.2

/-! ## Parts of names -/

theorem ascii_of_isPart
    {character : Char}
    (part : isPart character) :
    character.toNat < 0x80 := by
  rcases Bool.or_eq_true_iff.mp part with alphanumeric | underscore
  · exact Text.ascii_of_isAlphanumeric alphanumeric
  · rw [beq_iff_eq.mp underscore]
    decide

/-- A part of a name is no white space. -/
theorem isWhitespace_of_isPart
    {character : Char}
    (part : isPart character) :
    Text.isWhitespace character = false := by
  have apart :=
    Text.of_ascii (fun character => !isPart character || !Text.isWhitespace character)
      (by decide +kernel) (ascii_of_isPart part)
  simpa [part] using apart

end Phrasebook.Identifier
