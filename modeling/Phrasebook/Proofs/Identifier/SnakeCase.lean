import Phrasebook.Proofs.Identifier

namespace Phrasebook.Identifier

/-!
# Words in snake case

Snake case cuts a text into words. No word is empty, since a word is only cut off behind a character
that went into it, and no word holds an underscore, since none comes in by a change of case. So the
underscores of a name in snake case stand between its words and nowhere else, and the words in a row
are the text in lowercase without its separators. The words of an ASCII text are not cut again.
-/

/-- The words of a text. -/
def words
    (text : List Char) :
    List (List Char) :=
  (segments text).flatMap segmentWords

theorem snakeCase_eq
    (text : List Char) :
    snakeCase text = ['_'].intercalate (words text) :=
  rfl

/-! ## The characters of words -/

/-- The segments of a text in a row are the text without its separators. -/
theorem flatten_segments
    (text : List Char) :
    (segments text).flatten = text.filter (¬IsSeparator ·) := by
  rw [segments_eq_splitOnP, List.flatten_filter_not_isEmpty]
  induction text with
  | nil =>
      rfl
  | cons character text inductionHypothesis =>
      rw [List.splitOnP_cons_eq_if_modifyHead]
      by_cases isSeparator : IsSeparator character
      · rw [if_pos (decide_eq_true isSeparator), List.flatten_cons, List.nil_append,
          inductionHypothesis, List.filter_cons_of_neg (by simpa using isSeparator)]
      · obtain ⟨first, others, shape⟩ :=
          List.exists_cons_of_ne_nil (List.splitOnP_ne_nil (decide <| IsSeparator ·) text)
        rw [shape] at inductionHypothesis
        rw [if_neg (by simpa using isSeparator), shape, List.modifyHead_cons, List.flatten_cons,
          List.cons_append, ← List.flatten_cons, inductionHypothesis,
          List.filter_cons_of_pos (by simpa using isSeparator)]

/-- The words of a text in a row are its characters in lowercase, separators apart. -/
theorem flatten_words
    (text : List Char) :
    (words text).flatten = (text.filter (¬IsSeparator ·)).flatMap Text.lowercase := by
  have segmentWise (segment : List Char) :
      (segmentWords segment).flatten = segment.flatMap Text.lowercase := by
    rw [segmentWords, flatten_wordsFrom, List.nil_append]
  rw [words, ← flatten_segments]
  induction segments text with
  | nil =>
      rfl
  | cons segment segments inductionHypothesis =>
      rw [List.flatMap_cons, List.flatten_append, inductionHypothesis, segmentWise,
        List.flatten_cons, List.flatMap_append]

/-- What is in a word comes from a character that is no separator. -/
theorem exists_of_mem_words
    {text word : List Char}
    {lowered : Char}
    (isWord : word ∈ words text)
    (inWord : lowered ∈ word) :
    ∃ character ∈ text, ¬IsSeparator character ∧ lowered ∈ Text.lowercase character := by
  have inRow : lowered ∈ (words text).flatten := List.mem_flatten.mpr ⟨word, isWord, inWord⟩
  rw [flatten_words] at inRow
  obtain ⟨character, kept, inLowercase⟩ := List.mem_flatMap.mp inRow
  obtain ⟨inText, noSeparator⟩ := List.mem_filter.mp kept
  exact ⟨character, inText, of_decide_eq_true noSeparator, inLowercase⟩

/-- What is in a name in snake case is an underscore or comes from a character of the text. -/
theorem of_mem_snakeCase
    {text : List Char}
    {part : Char}
    (member : part ∈ snakeCase text) :
    part = '_' ∨ ∃ character ∈ text, part ∈ Text.lowercase character := by
  rw [snakeCase_eq] at member
  rcases Text.mem_of_mem_intercalate member with isUnderscore | ⟨word, isWord, inWord⟩
  · exact .inl (List.mem_singleton.mp isUnderscore)
  · obtain ⟨character, inText, -, inLowercase⟩ := exists_of_mem_words isWord inWord
    exact .inr ⟨character, inText, inLowercase⟩

theorem underscore_not_mem_of_mem_words
    {text word : List Char}
    (isWord : word ∈ words text) :
    '_' ∉ word := by
  intro inWord
  obtain ⟨character, -, noSeparator, inLowercase⟩ := exists_of_mem_words isWord inWord
  refine Text.underscore_not_mem_lowercase ?_ inLowercase
  rintro rfl
  exact noSeparator (.inr (.inl rfl))

/-! ## Empty words -/

/-- A word that has been begun is not empty when it is cut off, and the next one begins with the
character behind it. -/
theorem ne_nil_of_mem_wordsFrom
    {word : List Char}
    (begun : word ≠ [])
    (afterLowercase : Bool)
    (segment : List Char) :
    ∀ written ∈ wordsFrom word afterLowercase segment, written ≠ [] := by
  induction segment generalizing word afterLowercase with
  | nil =>
      simpa [wordsFrom] using begun
  | cons character segment inductionHypothesis =>
      rw [wordsFrom]
      split
      · exact List.forall_mem_cons.mpr
          ⟨begun, inductionHypothesis (Text.lowercase_ne_nil character) _⟩
      · exact inductionHypothesis (List.append_ne_nil_of_left_ne_nil begun _) _

/-- Nothing is cut off before the first character of a segment. -/
theorem segmentWords_cons
    (character : Char)
    (segment : List Char) :
    segmentWords (character :: segment) =
      wordsFrom (Text.lowercase character) (Text.isLowercase character || character.isDigit)
        segment := by
  simp [segmentWords, wordsFrom]

theorem ne_nil_of_mem_words
    {text word : List Char}
    (isWord : word ∈ words text) :
    word ≠ [] := by
  obtain ⟨segment, isSegment, isWord⟩ := List.mem_flatMap.mp isWord
  obtain ⟨character, rest, rfl⟩ := List.exists_cons_of_ne_nil (of_mem_segments isSegment).1
  rw [segmentWords_cons] at isWord
  exact ne_nil_of_mem_wordsFrom (Text.lowercase_ne_nil character) _ rest word isWord

/-! ## Underscores -/

/-- Whether each underscore of a name stands alone between two other characters. -/
structure IsSpaced
    (name : List Char) :
    Prop where
  start : name.head? ≠ some '_'
  finish : name.getLast? ≠ some '_'
  inside : ¬['_', '_'] <:+: name

theorem splitOn_append_underscore
    (front rest : List Char) :
    List.splitOn '_' (front ++ '_' :: rest) = List.splitOn '_' front ++ List.splitOn '_' rest :=
  List.splitOnP_append_cons front rest rfl

/-- A name is spaced if there is something before, behind and between its underscores. -/
theorem isSpaced_of_splitOn
    {name : List Char}
    (parts : [] ∉ List.splitOn '_' name) :
    IsSpaced name := by
  have nothing : [] ∈ List.splitOn '_' [] := List.mem_singleton_self []
  refine ⟨fun starts => ?_, fun ends => ?_, fun doubled => ?_⟩
  · obtain ⟨rest, rfl⟩ := List.head?_eq_some_iff.mp starts
    refine parts ?_
    rw [← List.nil_append ('_' :: rest), splitOn_append_underscore]
    exact List.mem_append_left _ nothing
  · obtain ⟨front, rfl⟩ := List.getLast?_eq_some_iff.mp ends
    refine parts ?_
    rw [splitOn_append_underscore]
    exact List.mem_append_right _ nothing
  · obtain ⟨front, rest, rfl⟩ := doubled
    refine parts ?_
    rw [List.append_assoc, List.cons_append, splitOn_append_underscore, List.cons_append,
      ← List.nil_append ('_' :: ([] ++ rest)), splitOn_append_underscore]
    exact List.mem_append_right _ (List.mem_append_left _ nothing)

/-- Snake case puts underscores between words and nowhere else. -/
theorem isSpaced_snakeCase
    (text : List Char) :
    IsSpaced (snakeCase text) := by
  by_cases noWords : words text = []
  · rw [snakeCase_eq, noWords]
    exact ⟨by decide, by decide, by decide⟩
  · refine isSpaced_of_splitOn ?_
    rw [snakeCase_eq, List.splitOn_intercalate '_'
      (fun _ isWord => underscore_not_mem_of_mem_words isWord) noWords]
    exact fun isWord => ne_nil_of_mem_words isWord rfl

/-- Words are left in a row where the underscores between them are taken away. -/
theorem filter_intercalate
    {words : List (List Char)}
    (apart : ∀ word ∈ words, '_' ∉ word) :
    (['_'].intercalate words).filter (· ≠ '_') = words.flatten := by
  induction words with
  | nil =>
      rfl
  | cons word words inductionHypothesis =>
      rw [List.forall_mem_cons] at apart
      have kept : word.filter (· ≠ '_') = word := by
        refine List.filter_eq_self.mpr fun character inWord => decide_eq_true ?_
        rintro rfl
        exact apart.1 inWord
      by_cases isLast : words = []
      · rw [isLast, List.intercalate_singleton, kept, List.flatten_singleton]
      · rw [List.intercalate_cons_of_ne_nil isLast, List.filter_append, List.filter_append, kept,
          inductionHypothesis apart.2]
        simp

/-- Without its underscores a name in snake case is the text in lowercase without its separators. -/
theorem filter_snakeCase
    (text : List Char) :
    (snakeCase text).filter (· ≠ '_') =
      (text.filter (¬IsSeparator ·)).flatMap Text.lowercase := by
  rw [snakeCase_eq, filter_intercalate fun _ isWord => underscore_not_mem_of_mem_words isWord,
    flatten_words]

/-! ## Snake case of snake case -/

/-- Words of characters that are no separators are the segments of the name that they make. -/
theorem segments_intercalate
    {words : List (List Char)}
    (nonempty : ∀ word ∈ words, word ≠ [])
    (noSeparator : ∀ word ∈ words, ∀ character ∈ word, ¬IsSeparator character) :
    segments (['_'].intercalate words) = words := by
  induction words with
  | nil =>
      rfl
  | cons word words inductionHypothesis =>
      rw [List.forall_mem_cons] at nonempty noSeparator
      have alone := segments_of_noSeparator nonempty.1 noSeparator.1
      by_cases isLast : words = []
      · rw [isLast, List.intercalate_singleton, alone]
      · rw [List.intercalate_cons_of_ne_nil isLast, List.append_assoc, List.singleton_append,
          segments_append_separator (.inr (.inl rfl)), alone,
          inductionHypothesis nonempty.2 noSeparator.2]
        rfl

/-- Whether a character is small already: it starts no word and stays what it is in lowercase. -/
structure IsSettled
    (character : Char) :
    Prop where
  noCapital : Text.isUppercase character = false
  lowercase : Text.lowercase character = [character]

/-- A segment of settled characters is one word. -/
theorem wordsFrom_of_isSettled
    (word : List Char)
    (afterLowercase : Bool)
    {segment : List Char}
    (settled : ∀ character ∈ segment, IsSettled character) :
    wordsFrom word afterLowercase segment = [word ++ segment] := by
  induction segment generalizing word afterLowercase with
  | nil =>
      rw [wordsFrom, List.append_nil]
  | cons character segment inductionHypothesis =>
      rw [List.forall_mem_cons] at settled
      obtain ⟨⟨noCapital, lowercase⟩, further⟩ := settled
      rw [wordsFrom, noCapital, lowercase, Bool.false_and, if_neg Bool.false_ne_true,
        inductionHypothesis _ _ further, List.append_assoc]
      rfl

/-- ASCII characters in lowercase are settled, and no more of them are separators. -/
theorem isSettled_of_ascii
    {character lowered : Char}
    (ascii : character.toNat < 0x80)
    (noSeparator : ¬IsSeparator character)
    (inLowercase : lowered ∈ Text.lowercase character) :
    IsSettled lowered ∧ ¬IsSeparator lowered := by
  have known :=
    Text.of_ascii
      (fun character =>
        decide (IsSeparator character) ||
          !Text.isUppercase character.toLower &&
            decide (Text.lowercase character.toLower = [character.toLower]) &&
            decide (¬IsSeparator character.toLower))
      (by decide +kernel) ascii
  rw [Text.lowercase_of_ascii ascii, List.mem_singleton] at inLowercase
  subst inLowercase
  simp only [noSeparator, decide_false, Bool.false_or, Bool.and_eq_true, Bool.not_eq_true',
    decide_eq_true_eq] at known
  exact ⟨⟨known.1.1, known.1.2⟩, known.2⟩

/-- The words of an ASCII text are not cut again. -/
theorem words_snakeCase
    {text : List Char}
    (ascii : ∀ character ∈ text, character.toNat < 0x80) :
    words (snakeCase text) = words text := by
  have settled :
      ∀ word ∈ words text, ∀ lowered ∈ word, IsSettled lowered ∧ ¬IsSeparator lowered := by
    intro word isWord lowered inWord
    obtain ⟨character, inText, noSeparator, inLowercase⟩ := exists_of_mem_words isWord inWord
    exact isSettled_of_ascii (ascii character inText) noSeparator inLowercase
  have sameSegments : segments (snakeCase text) = words text :=
    segments_intercalate (fun _ isWord => ne_nil_of_mem_words isWord)
      fun word isWord lowered inWord => (settled word isWord lowered inWord).2
  have sameWord : ∀ word ∈ words text, segmentWords word = [word] := fun word isWord =>
    wordsFrom_of_isSettled [] false fun lowered inWord => (settled word isWord lowered inWord).1
  calc
    words (snakeCase text) = (words text).flatMap segmentWords := by
      rw [words, sameSegments]
    _ = (words text).flatMap fun word => [word] := List.flatMap_congr sameWord
    _ = words text := List.flatMap_singleton' _

/-- What snake case makes of a text: underscores stand between words only, nothing but separators is
lost, and an ASCII name is left as it is. -/
structure IsWrittenInWords
    (text : List Char) :
    Prop where
  spaced : IsSpaced (snakeCase text)
  lossless :
    (snakeCase text).filter (· ≠ '_') =
      (text.filter fun character => character ∉ ['.', '_', '-']).flatMap Text.lowercase
  stable :
    (∀ character ∈ text, character.toNat < 0x80) →
      snakeCase (snakeCase text) = snakeCase text

/-- Snake case writes every text in words. -/
theorem isWrittenInWords
    (text : List Char) :
    IsWrittenInWords text := by
  refine ⟨isSpaced_snakeCase text, ?_, fun ascii => ?_⟩
  · rw [filter_snakeCase]
    congr 2
    funext character
    simp [IsSeparator]
  · rw [snakeCase_eq, words_snakeCase ascii, ← snakeCase_eq]

/-- Capitals in a row stay together, and a digit goes with the letters before it. -/
theorem isWrittenInWords_mixed_case :
    let text := "-HTTPStatus__item2Count.".toList
    (∀ character ∈ text, character.toNat < 0x80) ∧
      IsWrittenInWords text ∧
      snakeCase text = "httpstatus_item2_count".toList ∧
      snakeCase (snakeCase text) = snakeCase text := by
  intro text
  have all : text.all (·.toNat < 0x80) := by decide
  have ascii : ∀ character ∈ text, character.toNat < 0x80 := by simpa using all
  have written := isWrittenInWords text
  exact ⟨ascii, written, by decide +kernel, written.stable ascii⟩

end Phrasebook.Identifier
