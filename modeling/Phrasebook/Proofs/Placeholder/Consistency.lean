import Mathlib.Data.Set.Defs
import Phrasebook.Proofs.Placeholder.Declaration
import Phrasebook.Text.Decimal

namespace Phrasebook.Placeholder

/-!
# Consistent placeholders

Placeholders are declared one after another, and each one may settle what an earlier one left open.
Whether all of them can be declared is nevertheless a question about the set of them, not about
their order, as long as no name that is stated could be taken for a default name.
-/

/-! ## Sets of placeholders -/

/-- Whether a placeholder has an index. -/
def Mentions
    (references : Set Reference)
    (index : Nat) :
    Prop :=
  ∃ reference ∈ references, reference.index = some index

/-- Whether a placeholder states a name for an index. -/
def StatesName
    (references : Set Reference)
    (index : Nat)
    (name : String) :
    Prop :=
  ∃ reference ∈ references, reference.index = some index ∧ reference.name = some name

/-- Whether a placeholder states a type for an index. -/
def StatesType
    (references : Set Reference)
    (index : Nat)
    (type : ArgumentType) :
    Prop :=
  ∃ reference ∈ references, reference.index = some index ∧ reference.type = some type

/-- Whether the indices of placeholders number the arguments of a message without a gap, and what
is stated about the arguments agrees. -/
structure NumberArguments
    (references : Set Reference) :
    Prop where
  numbered : ∃ count ≤ argumentLimit, ∀ index, Mentions references index ↔ index < count
  oneName :
    ∀ index first second,
      StatesName references index first → StatesName references index second → first = second
  oneType :
    ∀ index first second,
      StatesType references index first → StatesType references index second → first = second
  oneIndex :
    ∀ name first second,
      StatesName references first name → StatesName references second name → first = second

/-- Whether a name is the one stated for an argument, or the default name of an argument for which
none is stated. -/
def IsArgumentName
    (references : Set Reference)
    (name : String) :
    Prop :=
  (∃ index, StatesName references index name) ∨
    ∃ index,
      Mentions references index ∧
      (∀ stated, ¬StatesName references index stated) ∧
      name = ArgumentTable.defaultName index

/-- Whether placeholders agree about the arguments of a message, and those by name alone name one of
them. -/
structure AreConsistent
    (references : Set Reference) :
    Prop extends NumberArguments references where
  known :
    ∀ reference ∈ references, reference.index = none →
      ∀ name, reference.name = some name → IsArgumentName references name

/-- Whether no name that is stated for an argument is a default name. -/
def StatesNoDefaultName
    (references : Set Reference) :
    Prop :=
  ∀ index name, StatesName references index name →
    ∀ other, name ≠ ArgumentTable.defaultName other

namespace ArgumentTable

theorem defaultName_injective
    {first second : Nat}
    (same : defaultName first = defaultName second) :
    first = second := by
  have digits : Nat.toDigits 10 first = Nat.toDigits 10 second := by
    have texts := congrArg String.toList same
    simp only [defaultName, String.toList_append, Nat.toString_eq_ofList_toDigits,
      String.toList_ofList] at texts
    exact List.append_cancel_left texts
  rw [← Text.decimalValue_toDigits first, digits, Text.decimalValue_toDigits]

/-! ## What a table goes back to -/

theorem length_put
    (table : ArgumentTable)
    (argument : Argument) :
    (table.put argument).slots.length = max table.slots.length (argument.index + 1) := by
  simp only [put, extended, List.length_set, List.length_append, List.length_replicate]
  omega

/-- A table is as it was if an argument is put where it already is. -/
theorem put_of_at?
    {table : ArgumentTable}
    {argument : Argument}
    (placed : table.at? argument.index = some argument) :
    table.put argument = table := by
  have slot := at?_eq_some_iff.mp placed
  obtain ⟨inside, same⟩ := List.getElem?_eq_some_iff.mp slot
  have room : argument.index + 1 - table.slots.length = 0 := by omega
  have unchanged : table.slots.set argument.index (some argument) = table.slots := by
    rw [← same, List.set_getElem_self]
  rw [put, extended, room, List.replicate_zero, List.append_nil, unchanged]

/-- A state of a table after some of the given placeholders: it has no other indices, names and
types than they have, and no more slots than their indices need. -/
structure GoesBackTo
    (references : List Reference)
    (table : ArgumentTable) :
    Prop extends Arisen references table where
  bounded : ∀ index argument, table.at? index = some argument → index < argumentLimit
  mentioned :
    ∀ index argument, table.at? index = some argument →
      Mentions {reference | reference ∈ references} index
  typed :
    ∀ index argument, table.at? index = some argument → argument.typeStated →
      StatesType {reference | reference ∈ references} index argument.type
  tight :
    ∀ position < table.slots.length,
      ∃ index argument, position ≤ index ∧ table.at? index = some argument

theorem goesBackTo_empty
    (references : List Reference) :
    GoesBackTo references {} := by
  refine ⟨arisen_empty references, ?_, ?_, ?_, ?_⟩ <;> simp [at?]

theorem tight_put
    {table : ArgumentTable}
    {argument : Argument}
    (tight :
      ∀ position < table.slots.length,
        ∃ index placed, position ≤ index ∧ table.at? index = some placed) :
    ∀ position < (table.put argument).slots.length,
      ∃ index placed, position ≤ index ∧ (table.put argument).at? index = some placed := by
  intro position inside
  rw [length_put] at inside
  by_cases upTo : position ≤ argument.index
  · exact ⟨argument.index, argument, upTo, by rw [at?_put, if_pos rfl]⟩
  · have before : position < table.slots.length := by omega
    obtain ⟨index, placed, atMost, found⟩ := tight position before
    have other : index ≠ argument.index := by omega
    exact ⟨index, placed, atMost, by rw [at?_put, if_neg other, found]⟩

/-- What a declaration preserves, whether it succeeds or not. -/
theorem GoesBackTo.declare
    {references : List Reference}
    {table : ArgumentTable}
    {reference : Reference}
    (goesBack : GoesBackTo references table)
    (isMember : reference ∈ references) :
    GoesBackTo references (table.declare reference).1 := by
  have arisen := (goesBack.toArisen.declare isMember).1
  rcases declare_cases goesBack.wellFormed reference with
    same | ⟨argument, declares, typedBy, same⟩
  · rw [same]
    exact goesBack
  · rw [same] at arisen ⊢
    refine ⟨arisen, ?bounded, ?mentioned, ?typed, tight_put goesBack.tight⟩
    all_goals intro index placed found
    all_goals rw [at?_put] at found
    all_goals split at found
    case bounded.isTrue here =>
      rw [here]
      exact declares.bounded
    case bounded.isFalse =>
      exact goesBack.bounded index placed found
    case mentioned.isTrue here =>
      rw [here]
      exact ⟨reference, isMember, declares.index⟩
    case mentioned.isFalse =>
      exact goesBack.mentioned index placed found
    case typed.isTrue here =>
      cases found
      intro typeStated
      rw [here]
      rcases typedBy typeStated with states | ⟨earlier, earlierFound, earlierStated, sameType⟩
      · exact ⟨reference, isMember, declares.index, states⟩
      · rw [← sameType]
        exact goesBack.typed argument.index earlier earlierFound earlierStated
    case typed.isFalse =>
      exact goesBack.typed index placed found

/-! ## Tables that agree with every placeholder -/

/-- Whether a table agrees with every placeholder that has an index. -/
def HonoursAll
    (table : ArgumentTable)
    (references : List Reference) :
    Prop :=
  ∀ reference ∈ references, ∀ index, reference.index = some index →
    table.Honours reference index

theorem HonoursAll.found
    {references : List Reference}
    {table : ArgumentTable}
    {index : Nat}
    (honoured : table.HonoursAll references)
    (mentions : Mentions {reference | reference ∈ references} index) :
    ∃ argument, table.at? index = some argument := by
  obtain ⟨reference, isMember, indexed⟩ := mentions
  obtain ⟨argument, found, _⟩ := honoured reference isMember index indexed
  exact ⟨argument, found⟩

theorem HonoursAll.name
    {references : List Reference}
    {table : ArgumentTable}
    {index : Nat}
    {name : String}
    (honoured : table.HonoursAll references)
    (states : StatesName {reference | reference ∈ references} index name) :
    ∃ argument, table.at? index = some argument ∧ argument.nameStated ∧ argument.name = name := by
  obtain ⟨reference, isMember, indexed, named⟩ := states
  obtain ⟨argument, found, names, _⟩ := honoured reference isMember index indexed
  exact ⟨argument, found, names name named⟩

theorem HonoursAll.type
    {references : List Reference}
    {table : ArgumentTable}
    {index : Nat}
    {type : ArgumentType}
    (honoured : table.HonoursAll references)
    (states : StatesType {reference | reference ∈ references} index type) :
    ∃ argument, table.at? index = some argument ∧ argument.type = type := by
  obtain ⟨reference, isMember, indexed, typed⟩ := states
  obtain ⟨argument, found, _, types⟩ := honoured reference isMember index indexed
  exact ⟨argument, found, (types type typed).2⟩

/-- The placeholders of a complete table that agrees with all of them number its arguments. -/
theorem numberArguments_of_complete
    {references : List Reference}
    {table : ArgumentTable}
    (goesBack : GoesBackTo references table)
    (honoured : table.HonoursAll references)
    (complete : table.checkComplete = .ok ()) :
    NumberArguments {reference | reference ∈ references} where
  numbered := by
    have full := (complete_of_checkComplete complete).1
    have placed :
        ∀ index < table.arguments.length, ∃ argument, table.at? index = some argument := by
      intro index inside
      refine ⟨table.arguments[index], at?_eq_some_iff.mpr ?_⟩
      rw [full, List.getElem?_map, List.getElem?_eq_getElem inside]
      rfl
    refine ⟨table.arguments.length, ?_, fun index => ⟨fun mentions => ?_, fun inside => ?_⟩⟩
    · by_contra beyond
      obtain ⟨argument, found⟩ := placed argumentLimit (Nat.lt_of_not_le beyond)
      exact Nat.lt_irrefl _ (goesBack.bounded argumentLimit argument found)
    · obtain ⟨argument, found⟩ := honoured.found mentions
      exact lt_length_of_at? complete found
    · obtain ⟨argument, found⟩ := placed index inside
      exact goesBack.mentioned index argument found
  oneName := by
    intro index first second statesFirst statesSecond
    obtain ⟨argument, found, _, firstName⟩ := honoured.name statesFirst
    obtain ⟨other, otherFound, _, secondName⟩ := honoured.name statesSecond
    rw [found] at otherFound
    cases otherFound
    exact firstName.symm.trans secondName
  oneType := by
    intro index first second statesFirst statesSecond
    obtain ⟨argument, found, firstType⟩ := honoured.type statesFirst
    obtain ⟨other, otherFound, secondType⟩ := honoured.type statesSecond
    rw [found] at otherFound
    cases otherFound
    exact firstType.symm.trans secondType
  oneIndex := by
    intro name first second statesFirst statesSecond
    obtain ⟨argument, found, _, firstName⟩ := honoured.name statesFirst
    obtain ⟨other, otherFound, _, secondName⟩ := honoured.name statesSecond
    exact index_unique_of_complete complete found otherFound (firstName.trans secondName.symm)

/-! ## One declaration after another -/

/-- A table with some placeholders declared one after another, as far as they fit. -/
def declareAll
    (table : ArgumentTable)
    (references : List Reference) :
    ArgumentTable :=
  references.foldl (fun table reference => (table.declare reference).1) table

theorem GoesBackTo.declareAll
    {references rest : List Reference}
    {table : ArgumentTable}
    (goesBack : GoesBackTo references table)
    (subset : ∀ reference ∈ rest, reference ∈ references) :
    GoesBackTo references (table.declareAll rest) ∧ (table.declareAll rest).Extends table := by
  induction rest generalizing table with
  | nil =>
      exact ⟨goesBack, .refl table⟩
  | cons reference rest inductionHypothesis =>
      rw [List.forall_mem_cons] at subset
      obtain ⟨last, further⟩ := inductionHypothesis (goesBack.declare subset.1) subset.2
      exact ⟨last, (goesBack.toArisen.declare subset.1).2.trans further⟩

/-! ## Declarations of consistent placeholders -/

theorem withName_eq_ok_of_agrees
    {argument : Argument}
    {stated : Option String}
    (agrees : ∀ name, stated = some name → argument.nameStated → argument.name = name) :
    ∃ named, withName argument stated = .ok named := by
  cases stated with
  | none =>
      exact ⟨argument, rfl⟩
  | some name =>
      have noClash : ¬(argument.nameStated && argument.name != name) := by
        simpa using agrees name rfl
      exact ⟨_, if_neg noClash⟩

theorem withType_eq_ok_of_agrees
    {argument : Argument}
    {stated : Option ArgumentType}
    (agrees : ∀ type, stated = some type → argument.typeStated → argument.type = type) :
    ∃ typed, withType argument stated = .ok typed := by
  cases stated with
  | none =>
      exact ⟨argument, rfl⟩
  | some type =>
      have noClash : ¬(argument.typeStated && argument.type != type) := by
        simpa using agrees type rfl
      exact ⟨_, if_neg noClash⟩

theorem firstSameName?_eq_none
    {earlier arguments : List Argument}
    (apart : (earlier ++ arguments).Pairwise fun first second => first.name ≠ second.name) :
    firstSameName? earlier arguments = none := by
  induction arguments generalizing earlier with
  | nil =>
      rfl
  | cons argument rest inductionHypothesis =>
      have fresh : earlier.find? (·.name == argument.name) = none := by
        refine List.find?_eq_none.mpr fun first isMember same => ?_
        have differs := (List.pairwise_append.mp apart).2.2 first isMember argument (by simp)
        exact differs (beq_iff_eq.mp same)
      rw [firstSameName?, fresh]
      exact inductionHypothesis (by simpa using apart)

theorem bounded_of_numberArguments
    {references : Set Reference}
    {reference : Reference}
    {index : Nat}
    (numbers : NumberArguments references)
    (isMember : reference ∈ references)
    (indexed : reference.index = some index) :
    index < argumentLimit := by
  obtain ⟨count, within, numbered⟩ := numbers.numbered
  exact Nat.lt_of_lt_of_le ((numbered index).mp ⟨reference, isMember, indexed⟩) within

section

variable
  {references : List Reference}
  {table : ArgumentTable}
  (goesBack : GoesBackTo references table)
  (numbers : NumberArguments {reference | reference ∈ references})
  (noDefault : StatesNoDefaultName {reference | reference ∈ references})

include goesBack numbers noDefault

/-- A name that is stated is found for no other index. -/
theorem GoesBackTo.otherIndexOfName?_eq_none
    {reference : Reference}
    {index : Nat}
    (isMember : reference ∈ references)
    (indexed : reference.index = some index) :
    table.otherIndexOfName? index reference = none := by
  unfold otherIndexOfName?
  split
  · rfl
  · rename_i name named
    split
    · rfl
    · rename_i argument found
      obtain ⟨sameName, position, placed⟩ := at?_of_named? found
      have states : StatesName {reference | reference ∈ references} index name :=
        ⟨reference, isMember, indexed, named⟩
      have nameStated : argument.nameStated := by
        by_contra unstated
        have isDefault :=
          goesBack.wellFormed.named position argument placed (Bool.eq_false_iff.mpr unstated)
        exact noDefault index name states position (sameName.symm.trans isDefault)
      have placedStates := goesBack.stated position argument placed nameStated
      rw [sameName] at placedStates
      have here := numbers.oneIndex name position index placedStates states
      rw [goesBack.wellFormed.placed position argument placed, if_pos here]

/-- A placeholder with an index can be declared wherever it stands among consistent ones. -/
theorem GoesBackTo.declare_eq_ok
    {reference : Reference}
    {index : Nat}
    (isMember : reference ∈ references)
    (indexed : reference.index = some index) :
    (table.declare reference).2 = .ok index := by
  have bounded := bounded_of_numberArguments numbers isMember indexed
  have unused := goesBack.otherIndexOfName?_eq_none numbers noDefault isMember indexed
  unfold ArgumentTable.declare
  rw [indexed]
  simp only
  rw [if_neg (Nat.not_le.mpr bounded), unused]
  simp only
  split
  · rfl
  · rename_i argument found
    have placed := goesBack.wellFormed.placed index argument found
    obtain ⟨named, nameAccepted⟩ : ∃ named, withName argument reference.name = .ok named :=
      withName_eq_ok_of_agrees fun name states nameStated =>
        numbers.oneName index argument.name name
          (goesBack.stated index argument found nameStated)
          ⟨reference, isMember, indexed, states⟩
    obtain ⟨_, namedType, namedStated, _, _⟩ := withName_eq_ok nameAccepted
    obtain ⟨typed, typeAccepted⟩ : ∃ typed, withType named reference.type = .ok typed := by
      refine withType_eq_ok_of_agrees fun type states typeStated => ?_
      rw [namedStated] at typeStated
      rw [namedType]
      exact numbers.oneType index argument.type type
        (goesBack.typed index argument found typeStated)
        ⟨reference, isMember, indexed, states⟩
    rw [restate, nameAccepted]
    simp only
    rw [typeAccepted, placed]

/-- A placeholder with which a table agrees changes nothing when it is declared. -/
theorem GoesBackTo.declare_of_honours
    {reference : Reference}
    {index : Nat}
    (isMember : reference ∈ references)
    (indexed : reference.index = some index)
    (honoured : table.Honours reference index) :
    table.declare reference = (table, .ok index) := by
  have bounded := bounded_of_numberArguments numbers isMember indexed
  have unused := goesBack.otherIndexOfName?_eq_none numbers noDefault isMember indexed
  obtain ⟨argument, found, names, types⟩ := honoured
  have placed := goesBack.wellFormed.placed index argument found
  have sameName : withName argument reference.name = .ok argument := by
    cases stated : reference.name with
    | none =>
        rfl
    | some name =>
        obtain ⟨nameStated, rfl⟩ := names name stated
        simp [withName, ← nameStated]
  have sameType : withType argument reference.type = .ok argument := by
    cases stated : reference.type with
    | none =>
        rfl
    | some type =>
        obtain ⟨typeStated, rfl⟩ := types type stated
        simp [withType, ← typeStated]
  have unchanged : table.put argument = table := put_of_at? (by rw [placed, found])
  rw [declare_eq_restate indexed bounded unused found, restate, sameName]
  simp only
  rw [sameType]
  simp only
  rw [unchanged, placed]

/-- After consistent placeholders have been declared, in whatever order, the table agrees with each
of them. -/
theorem honoursAll_declareAll
    {rest : List Reference}
    (subset : ∀ reference ∈ rest, reference ∈ references) :
    (table.declareAll rest).HonoursAll rest := by
  induction rest generalizing table with
  | nil =>
      simp [HonoursAll]
  | cons first rest inductionHypothesis =>
      rw [List.forall_mem_cons] at subset
      have changed := goesBack.declare subset.1
      have further := (changed.declareAll subset.2).2
      refine List.forall_mem_cons.mpr ⟨fun index indexed => ?_,
        inductionHypothesis changed subset.2⟩
      have succeeded := goesBack.declare_eq_ok numbers noDefault subset.1 indexed
      obtain ⟨_, honoured⟩ := honours_of_declare goesBack.wellFormed indexed succeeded
      exact honoured.mono further

/-- Two arguments of consistent placeholders do not share a name, stated or not. -/
theorem GoesBackTo.index_unique
    {first second : Nat}
    {firstArgument secondArgument : Argument}
    (firstFound : table.at? first = some firstArgument)
    (secondFound : table.at? second = some secondArgument)
    (same : firstArgument.name = secondArgument.name) :
    first = second := by
  have firstStates := goesBack.stated first firstArgument firstFound
  have secondStates := goesBack.stated second secondArgument secondFound
  have firstDefault := goesBack.wellFormed.named first firstArgument firstFound
  have secondDefault := goesBack.wellFormed.named second secondArgument secondFound
  rw [same] at firstStates firstDefault
  cases firstStated : firstArgument.nameStated with
  | true =>
      cases secondStated : secondArgument.nameStated with
      | true =>
          exact numbers.oneIndex _ first second (firstStates firstStated)
            (secondStates secondStated)
      | false =>
          exact absurd (secondDefault secondStated)
            (noDefault first _ (firstStates firstStated) second)
  | false =>
      cases secondStated : secondArgument.nameStated with
      | true =>
          exact absurd (firstDefault firstStated)
            (noDefault second _ (secondStates secondStated) first)
      | false =>
          exact defaultName_injective
            ((firstDefault firstStated).symm.trans (secondDefault secondStated))

/-- A table that agrees with consistent placeholders is complete. -/
theorem GoesBackTo.checkComplete_eq_ok
    (honoured : table.HonoursAll references) :
    table.checkComplete = .ok () := by
  have noGap : table.slots.findIdx? (·.isNone) = none := by
    refine List.findIdx?_eq_none_iff.mpr fun slot isMember => ?_
    obtain ⟨position, inside, rfl⟩ := List.mem_iff_getElem.mp isMember
    obtain ⟨count, _, numbered⟩ := numbers.numbered
    obtain ⟨index, placed, atMost, found⟩ := goesBack.tight position inside
    have below := (numbered index).mp (goesBack.mentioned index placed found)
    obtain ⟨argument, argumentFound⟩ :=
      honoured.found ((numbered position).mpr (Nat.lt_of_le_of_lt atMost below))
    have slot := at?_eq_some_iff.mp argumentFound
    rw [List.getElem?_eq_getElem inside, Option.some.injEq] at slot
    rw [slot]
    rfl
  have apart : table.arguments.Pairwise fun first second => first.name ≠ second.name := by
    refine pairwise_arguments fun first second argument other before found otherFound same => ?_
    have equal := goesBack.index_unique numbers noDefault found otherFound same
    exact Nat.ne_of_lt before equal
  rw [checkComplete, noGap]
  simp only
  rw [firstSameName?_eq_none (by simpa using apart)]

end

/-! ## Names of arguments -/

theorem named?_isSome_of_at?
    {table : ArgumentTable}
    {index : Nat}
    {argument : Argument}
    (found : table.at? index = some argument) :
    (table.named? argument.name).isSome := by
  refine List.find?_isSome.mpr ⟨argument, mem_arguments_iff.mpr ⟨index, found⟩, ?_⟩
  exact beq_self_eq_true argument.name

/-- The names that are found in a table that agrees with placeholders are the names of their
arguments. -/
theorem GoesBackTo.named?_isSome_iff
    {references : List Reference}
    {table : ArgumentTable}
    (goesBack : GoesBackTo references table)
    (honoured : table.HonoursAll references)
    (name : String) :
    (table.named? name).isSome ↔ IsArgumentName {reference | reference ∈ references} name := by
  constructor
  · intro isSome
    obtain ⟨argument, looked⟩ := Option.isSome_iff_exists.mp isSome
    obtain ⟨rfl, index, found⟩ := at?_of_named? looked
    cases nameStated : argument.nameStated with
    | true =>
        exact .inl ⟨index, goesBack.stated index argument found nameStated⟩
    | false =>
        refine .inr ⟨index, goesBack.mentioned index argument found, fun stated states => ?_,
          goesBack.wellFormed.named index argument found nameStated⟩
        obtain ⟨other, otherFound, otherStated, _⟩ := honoured.name states
        rw [found] at otherFound
        cases otherFound
        rw [nameStated] at otherStated
        cases otherStated
  · rintro (⟨index, states⟩ | ⟨index, mentions, noName, rfl⟩)
    · obtain ⟨argument, found, _, rfl⟩ := honoured.name states
      exact named?_isSome_of_at? found
    · obtain ⟨argument, found⟩ := honoured.found mentions
      have nameUnstated : argument.nameStated = false :=
        Bool.eq_false_iff.mpr fun nameStated =>
          noName argument.name (goesBack.stated index argument found nameStated)
      rw [← goesBack.wellFormed.named index argument found nameUnstated]
      exact named?_isSome_of_at? found

/-- A name alone is resolved just if it is found. -/
theorem resolve_nameAlone_iff
    (table : ArgumentTable)
    (name : String) :
    (∃ index, table.resolve ⟨none, some name, none⟩ = .ok index) ↔ (table.named? name).isSome := by
  cases looked : table.named? name with
  | none =>
      simp [resolve, looked, bind, Except.bind]
  | some argument =>
      simp only [resolve, looked]
      exact ⟨fun _ => rfl, fun _ => ⟨argument.index, rfl⟩⟩

end ArgumentTable

end Phrasebook.Placeholder
