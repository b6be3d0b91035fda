import Phrasebook.Proofs.Placeholder.RoundTrip

namespace Phrasebook.Placeholder

/-!
# The shapes of placeholders

What stands between the braces of a placeholder has one of four shapes: an index, an index and a
name, an index, a name and a type, or a name. The shapes are told here by the text alone, without
cutting it at its colons. Whether a text is read as a placeholder, kept or refused then follows:
it is read just if it has a shape and its index is not too large, and it is refused just if an index
and a name stand before a type that does not exist, whatever a further colon may introduce.
-/

/-! ## Names of types -/

namespace ArgumentType

/-- The names of a type, in small letters. -/
def names :
    ArgumentType →
    List String
  | .text => ["str", "string"]
  | .integer => ["int", "long", "i64"]

/-- Whether a text is a name of a type, in capital or small letters. -/
def IsWritten
    (type : ArgumentType)
    (written : List Char) :
    Prop :=
  String.ofList (written.map Char.toLower) ∈ type.names

theorem ofWritten?_eq_some_iff
    {written : List Char}
    {type : ArgumentType} :
    ofWritten? written = some type ↔ type.IsWritten written := by
  unfold ofWritten? IsWritten
  constructor
  · intro known
    split at known
    all_goals rename_i same
    all_goals cases known
    all_goals simp [names, same]
  · intro isName
    cases type with
    | text =>
        rcases List.mem_cons.mp isName with same | further
        · simp [same]
        · simp [List.mem_singleton.mp further]
    | integer =>
        rcases List.mem_cons.mp isName with same | further
        · simp [same]
        · rcases List.mem_cons.mp further with same | last
          · simp [same]
          · simp [List.mem_singleton.mp last]

theorem ofWritten?_eq_none_iff
    {written : List Char} :
    ofWritten? written = none ↔ ∀ type : ArgumentType, ¬type.IsWritten written := by
  rw [Option.eq_none_iff_forall_ne_some]
  exact forall_congr' fun type => not_congr ofWritten?_eq_some_iff

theorem isPart_of_isPart_toLower
    {character : Char}
    (isPart : Identifier.isPart character.toLower) :
    Identifier.isPart character := by
  by_cases capital : character.isUpper
  · simp [Identifier.isPart, Char.isAlpha, capital]
  · rw [Identifier.toLower_of_not_isUpper (Bool.eq_false_iff.mpr capital)] at isPart
    exact isPart

/-- A name of a type has the characters of an identifier. -/
theorem IsWritten.all_isPart
    {type : ArgumentType}
    {written : List Char}
    (isWritten : type.IsWritten written) :
    written.all Identifier.isPart := by
  have namesOfParts : ∀ name ∈ type.names, name.toList.all Identifier.isPart := by
    cases type <;> decide
  have small := namesOfParts _ isWritten
  rw [String.toList_ofList, List.all_map] at small
  refine List.all_eq_true.mpr fun character member => ?_
  exact isPart_of_isPart_toLower (List.all_eq_true.mp small character member)

end ArgumentType

/-! ## Shapes -/

/-- The texts that have the shape of a placeholder, and what they say. An index may have any number
of digits. -/
inductive IsShape :
    List Char →
    Reference →
    Prop where
  | index
      {digits : List Char}
      (decimal : Text.isNumber digits) :
      IsShape digits ⟨some (Text.decimalValue digits), none, none⟩
  | named
      {digits name : List Char}
      (decimal : Text.isNumber digits)
      (isName : Identifier.isName name) :
      IsShape (digits ++ ':' :: name)
        ⟨some (Text.decimalValue digits), some (String.ofList name), none⟩
  | typed
      {digits name written : List Char}
      {type : ArgumentType}
      (decimal : Text.isNumber digits)
      (isName : Identifier.isName name)
      (isWritten : type.IsWritten written) :
      IsShape (digits ++ ':' :: (name ++ ':' :: written))
        ⟨some (Text.decimalValue digits), some (String.ofList name), some type⟩
  | name
      {name : List Char}
      (isName : Identifier.isName name) :
      IsShape name ⟨none, some (String.ofList name), none⟩

/-- A text that is a placeholder when braces stand around it: it has a shape, and an index is not
larger than the largest one that can be written. -/
structure IsPlaceholder
    (content : List Char)
    (reference : Reference) :
    Prop where
  shape : IsShape content reference
  small : ∀ index, reference.index = some index → index ≤ largestIndex

/-- A text with an index and a name before a type that does not exist, and what follows the type:
nothing, or a colon and any text. -/
inductive IsMistyped :
    List Char →
    List Char →
    List Char →
    Prop where
  | intro
      {digits name written further : List Char}
      (decimal : Text.isNumber digits)
      (small : Text.decimalValue digits ≤ largestIndex)
      (isName : Identifier.isName name)
      (noColon : ':' ∉ written)
      (unknown : ∀ type : ArgumentType, ¬type.IsWritten written)
      (apart : further = [] ∨ further.head? = some ':') :
      IsMistyped (digits ++ ':' :: (name ++ ':' :: (written ++ further))) written further

theorem IsBraceless.append
    {first second : List Char}
    (firstBraceless : IsBraceless first)
    (secondBraceless : IsBraceless second) :
    IsBraceless (first ++ second) :=
  List.forall_mem_append.mpr ⟨firstBraceless, secondBraceless⟩

theorem IsBraceless.cons_colon
    {text : List Char}
    (braceless : IsBraceless text) :
    IsBraceless (':' :: text) :=
  List.forall_mem_cons.mpr ⟨rfl, braceless⟩

/-- A text with the shape of a placeholder has no braces. -/
theorem IsShape.braceless
    {content : List Char}
    {reference : Reference}
    (shape : IsShape content reference) :
    IsBraceless content := by
  cases shape with
  | index decimal =>
      exact (isPlainPart_of_isNumber decimal).braceless
  | named decimal isName =>
      have nameBraceless := (isPlainPart_of_isName isName).braceless
      exact (isPlainPart_of_isNumber decimal).braceless.append nameBraceless.cons_colon
  | typed decimal isName isWritten =>
      have nameBraceless := (isPlainPart_of_isName isName).braceless
      have typeBraceless := (isPlainPart_of_isPart isWritten.all_isPart).braceless
      exact (isPlainPart_of_isNumber decimal).braceless.append
        (nameBraceless.append typeBraceless.cons_colon).cons_colon
  | name isName =>
      exact (isPlainPart_of_isName isName).braceless

/-! ## Reading what stands between braces -/

theorem splitOnP_colon
    {first : List Char}
    (noColon : ':' ∉ first)
    (rest : List Char) :
    (first ++ ':' :: rest).splitOnP (· == ':') = first :: rest.splitOnP (· == ':') := by
  refine List.splitOnP_append_cons_of_forall_mem (fun character member => ?_) ':' rfl rest
  rw [beq_eq_false_iff_ne]
  rintro rfl
  exact noColon member

theorem splitOnP_of_noColon
    {part : List Char}
    (noColon : ':' ∉ part) :
    part.splitOnP (· == ':') = [part] := by
  refine List.splitOnP_eq_singleton fun character member => ?_
  rw [beq_eq_false_iff_ne]
  rintro rfl
  exact noColon member

/-- What is cut at its colons is the parts joined by colons. -/
theorem intercalate_splitOnP_colon
    (content : List Char) :
    [':'].intercalate (content.splitOnP (· == ':')) = content :=
  List.intercalate_splitOn ':'

theorem isPlaceholder_of_referenceOfParts
    {content : List Char}
    {parts : List (List Char)}
    {reference : Reference}
    (found : referenceOfParts content parts = .ok (some reference)) :
    IsPlaceholder ([':'].intercalate parts) reference := by
  cases parts with
  | nil =>
      cases found
  | cons first further =>
      simp only [referenceOfParts] at found
      by_cases decimal : Text.isNumber first
      · rw [if_pos decimal] at found
        by_cases small : Text.decimalValue first ≤ largestIndex
        · rw [if_pos small] at found
          have fits (name : Option String) (type : Option ArgumentType) :
              ∀ index,
                (Reference.mk (some (Text.decimalValue first)) name type).index = some index →
                  index ≤ largestIndex := by
            rintro index ⟨⟩
            exact small
          rcases further with _ | ⟨name, more⟩
          · cases found
            exact ⟨by simpa using IsShape.index decimal, fits _ _⟩
          · simp only at found
            split at found
            · rename_i isName
              rcases more with _ | ⟨written, rest⟩
              · cases found
                exact ⟨by simpa using IsShape.named decimal isName, fits _ _⟩
              · simp only at found
                split at found
                · cases found
                · rename_i type known
                  split at found
                  · rename_i noMore
                    cases found
                    rw [List.isEmpty_iff.mp noMore]
                    have isWritten := ArgumentType.ofWritten?_eq_some_iff.mp known
                    exact ⟨by simpa using IsShape.typed decimal isName isWritten, fits _ _⟩
                  · cases found
            · cases found
        · rw [if_neg small] at found
          cases found
      · rw [if_neg decimal] at found
        split at found
        · rename_i isName
          rw [Bool.and_eq_true, List.isEmpty_iff] at isName
          cases found
          rw [isName.1]
          exact ⟨by simpa using IsShape.name isName.2, by simp⟩
        · cases found

theorem isMistyped_of_referenceOfParts
    {content : List Char}
    {parts : List (List Char)}
    {unknown : UnknownType}
    (whole : ∀ part ∈ parts, ':' ∉ part)
    (failed : referenceOfParts content parts = .error unknown) :
    unknown.content = content ∧
      ∃ further, IsMistyped ([':'].intercalate parts) unknown.type further := by
  rcases parts with _ | ⟨first, _ | ⟨name, _ | ⟨written, rest⟩⟩⟩
  · cases failed
  · simp only [referenceOfParts] at failed
    repeat' split at failed
    all_goals cases failed
  · simp only [referenceOfParts] at failed
    repeat' split at failed
    all_goals cases failed
  · simp only [referenceOfParts] at failed
    split at failed
    · rename_i decimal
      split at failed
      · rename_i small
        split at failed
        · rename_i isName
          split at failed
          · rename_i absent
            cases failed
            have noColon : ':' ∉ written := whole written (by simp)
            have unknown := ArgumentType.ofWritten?_eq_none_iff.mp absent
            cases rest with
            | nil =>
                have mistyped :=
                  IsMistyped.intro decimal small isName noColon unknown (.inl rfl)
                exact ⟨rfl, [], by simpa using mistyped⟩
            | cons next more =>
                have leads : (':' :: [':'].intercalate (next :: more)).head? = some ':' := rfl
                have mistyped :=
                  IsMistyped.intro decimal small isName noColon unknown (.inr leads)
                exact ⟨rfl, _, by simpa using mistyped⟩
          · split at failed
            all_goals cases failed
        · cases failed
      · cases failed
    · split at failed
      all_goals cases failed

/-- A text between braces is read as a placeholder just if it is one. -/
theorem referenceOf_eq_some_iff
    {content : List Char}
    {reference : Reference} :
    referenceOf content = .ok (some reference) ↔ IsPlaceholder content reference := by
  constructor
  · intro found
    have placeholder := isPlaceholder_of_referenceOfParts found
    rw [intercalate_splitOnP_colon] at placeholder
    exact placeholder
  · rintro ⟨shape, small⟩
    unfold referenceOf
    cases shape with
    | index decimal =>
        have fits := small _ rfl
        rw [splitOnP_of_noColon (isPlainPart_of_isNumber decimal).noColon]
        simp [referenceOfParts, decimal, fits]
    | named decimal isName =>
        have fits := small _ rfl
        rw [splitOnP_colon (isPlainPart_of_isNumber decimal).noColon,
          splitOnP_of_noColon (isPlainPart_of_isName isName).noColon]
        simp [referenceOfParts, decimal, fits, isName]
    | typed decimal isName isWritten =>
        have fits := small _ rfl
        have known := ArgumentType.ofWritten?_eq_some_iff.mpr isWritten
        rw [splitOnP_colon (isPlainPart_of_isNumber decimal).noColon,
          splitOnP_colon (isPlainPart_of_isName isName).noColon,
          splitOnP_of_noColon (isPlainPart_of_isPart isWritten.all_isPart).noColon]
        simp [referenceOfParts, decimal, fits, isName, known]
    | name isName =>
        rw [splitOnP_of_noColon (isPlainPart_of_isName isName).noColon]
        simp [referenceOfParts, isNumber_of_isName isName, isName]

/-- A text with the shape of a placeholder whose index is too large to be written is kept. -/
theorem referenceOf_of_unwritable
    {content : List Char}
    {reference : Reference}
    {index : Nat}
    (shape : IsShape content reference)
    (indexed : reference.index = some index)
    (unwritable : largestIndex < index) :
    referenceOf content = .ok none := by
  -- The index is looked at first, whatever follows it.
  have kept :
      ∀ digits further, Text.isNumber digits → Text.decimalValue digits = index →
        referenceOfParts content (digits :: further) = .ok none := by
    rintro digits further decimal rfl
    simp [referenceOfParts, decimal, Nat.not_le.mpr unwritable]
  unfold referenceOf
  cases shape with
  | index decimal =>
      rw [splitOnP_of_noColon (isPlainPart_of_isNumber decimal).noColon]
      exact kept _ _ decimal (Option.some.inj indexed)
  | named decimal isName =>
      rw [splitOnP_colon (isPlainPart_of_isNumber decimal).noColon]
      exact kept _ _ decimal (Option.some.inj indexed)
  | typed decimal isName isWritten =>
      rw [splitOnP_colon (isPlainPart_of_isNumber decimal).noColon]
      exact kept _ _ decimal (Option.some.inj indexed)
  | name isName =>
      cases indexed

/-- A text between braces is refused just if its type does not exist. -/
theorem referenceOf_eq_error_iff
    {content : List Char}
    {unknown : UnknownType} :
    referenceOf content = .error unknown ↔
      unknown.content = content ∧ ∃ further, IsMistyped content unknown.type further := by
  constructor
  · intro failed
    have whole : ∀ part ∈ content.splitOnP (· == ':'), ':' ∉ part := by
      intro part isPart colon
      cases (Identifier.mem_of_mem_splitOnP isPart colon).2
    have mistyped := isMistyped_of_referenceOfParts whole failed
    rw [intercalate_splitOnP_colon] at mistyped
    exact mistyped
  · obtain ⟨type, refused⟩ := unknown
    rintro ⟨same, further, mistyped⟩
    simp only at same mistyped
    subst same
    obtain ⟨decimal, small, isName, noColon, unknown, apart⟩ := mistyped
    have absent := ArgumentType.ofWritten?_eq_none_iff.mpr unknown
    unfold referenceOf
    rw [splitOnP_colon (isPlainPart_of_isNumber decimal).noColon,
      splitOnP_colon (isPlainPart_of_isName isName).noColon]
    rcases apart with rfl | leads
    · rw [List.append_nil, splitOnP_of_noColon noColon]
      simp [referenceOfParts, decimal, small, isName, absent]
    · obtain ⟨more, rfl⟩ := List.head?_eq_some_iff.mp leads
      rw [splitOnP_colon noColon]
      simp [referenceOfParts, decimal, small, isName, absent]

end Phrasebook.Placeholder
