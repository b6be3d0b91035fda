import Phrasebook.Placeholder.ArgumentTable
import Phrasebook.Proofs.Result

namespace Phrasebook.Placeholder

/-!
# What declarations do to an argument table

A declaration leaves a table alone or puts one argument into it. Whatever has been stated about an
argument stays: only a default name and a default type give way to what a later placeholder
states.
-/

namespace ArgumentTable

/-! ## Looking arguments up -/

theorem at?_eq_some_iff
    {table : ArgumentTable}
    {index : Nat}
    {argument : Argument} :
    table.at? index = some argument ↔ table.slots[index]? = some (some argument) := by
  unfold at?
  rw [Option.join_eq_some_iff]

theorem getElem?_extended
    (table : ArgumentTable)
    (room index : Nat) :
    ((table.extended room)[index]?).join = table.at? index := by
  unfold extended at?
  by_cases inside : index < table.slots.length
  · rw [List.getElem?_append_left inside]
  · have outside : table.slots.length ≤ index := Nat.le_of_not_lt inside
    rw [List.getElem?_append_right outside, List.getElem?_eq_none outside,
      List.getElem?_replicate]
    split <;> rfl

theorem lt_length_extended
    (table : ArgumentTable)
    (index : Nat) :
    index < (table.extended index).length := by
  simp only [extended, List.length_append, List.length_replicate]
  omega

/-- What is at an index after an argument has been put into a table. -/
theorem at?_put
    (table : ArgumentTable)
    (argument : Argument)
    (index : Nat) :
    (table.put argument).at? index =
      if index = argument.index then some argument else table.at? index := by
  have inside := table.lt_length_extended argument.index
  rw [← table.getElem?_extended argument.index]
  unfold put at?
  simp only [List.getElem?_set]
  by_cases same : index = argument.index
  · simp [same, inside]
  · have other : ¬argument.index = index := fun equal => same equal.symm
    simp [same, other]

theorem mem_arguments_iff
    {table : ArgumentTable}
    {argument : Argument} :
    argument ∈ table.arguments ↔ ∃ index, table.at? index = some argument := by
  simp only [arguments, List.mem_filterMap, id_eq, exists_eq_right, at?_eq_some_iff]
  exact List.mem_iff_getElem?

/-- What relates the arguments at any two indices relates them in the order of the indices. -/
theorem pairwise_arguments
    {table : ArgumentTable}
    {related : Argument → Argument → Prop}
    (ordered :
      ∀ first second argument other,
        first < second →
        table.at? first = some argument →
        table.at? second = some other →
        related argument other) :
    table.arguments.Pairwise related := by
  unfold arguments
  refine List.pairwise_filterMap.mpr (List.pairwise_iff_getElem.mpr ?_)
  intro first second firstInside secondInside before argument found other otherFound
  apply ordered first second argument other before
  · rw [at?_eq_some_iff, List.getElem?_eq_getElem firstInside]
    exact congrArg some found
  · rw [at?_eq_some_iff, List.getElem?_eq_getElem secondInside]
    exact congrArg some otherFound

/-- A name is looked up to an argument of that name. -/
theorem at?_of_named?
    {table : ArgumentTable}
    {name : String}
    {argument : Argument}
    (found : table.named? name = some argument) :
    argument.name = name ∧ ∃ index, table.at? index = some argument := by
  unfold named? at found
  have same := List.find?_some found
  exact ⟨beq_iff_eq.mp same, mem_arguments_iff.mp (List.mem_of_find?_eq_some found)⟩

/-! ## Well-formed tables -/

/-- Every argument stands at its own index, and bears a default name unless one is stated. -/
structure WellFormed
    (table : ArgumentTable) :
    Prop where
  placed :
    ∀ index argument, table.at? index = some argument → argument.index = index
  named :
    ∀ index argument, table.at? index = some argument →
      argument.nameStated = false → argument.name = defaultName index

theorem wellFormed_empty :
    WellFormed {} := by
  constructor <;> simp [at?]

end ArgumentTable

/-- A later state of an argument: what has been stated about it stays. -/
structure Argument.Refines
    (later earlier : Argument) :
    Prop where
  index : later.index = earlier.index
  name : earlier.nameStated → later.nameStated ∧ later.name = earlier.name
  type : earlier.typeStated → later.typeStated ∧ later.type = earlier.type

theorem Argument.Refines.refl
    (argument : Argument) :
    argument.Refines argument :=
  ⟨rfl, fun stated => ⟨stated, rfl⟩, fun stated => ⟨stated, rfl⟩⟩

theorem Argument.Refines.trans
    {first second third : Argument}
    (earlier : second.Refines first)
    (later : third.Refines second) :
    third.Refines first := by
  refine ⟨later.index.trans earlier.index, fun stated => ?_, fun stated => ?_⟩
  · obtain ⟨secondStated, secondName⟩ := earlier.name stated
    obtain ⟨thirdStated, thirdName⟩ := later.name secondStated
    exact ⟨thirdStated, thirdName.trans secondName⟩
  · obtain ⟨secondStated, secondType⟩ := earlier.type stated
    obtain ⟨thirdStated, thirdType⟩ := later.type secondStated
    exact ⟨thirdStated, thirdType.trans secondType⟩

namespace ArgumentTable

/-- A later state of a table: it has at least the arguments, and what has been stated stays. -/
def Extends
    (later earlier : ArgumentTable) :
    Prop :=
  ∀ index argument, earlier.at? index = some argument →
    ∃ further, later.at? index = some further ∧ further.Refines argument

theorem Extends.refl
    (table : ArgumentTable) :
    table.Extends table :=
  fun _ argument found => ⟨argument, found, .refl argument⟩

theorem Extends.trans
    {first second third : ArgumentTable}
    (earlier : second.Extends first)
    (later : third.Extends second) :
    third.Extends first := by
  intro index argument found
  obtain ⟨further, furtherFound, refined⟩ := earlier index argument found
  obtain ⟨last, lastFound, lastRefined⟩ := later index further furtherFound
  exact ⟨last, lastFound, refined.trans lastRefined⟩

theorem extends_put
    {table : ArgumentTable}
    {argument : Argument}
    (refines : ∀ earlier, table.at? argument.index = some earlier → argument.Refines earlier) :
    (table.put argument).Extends table := by
  intro index earlier found
  rw [at?_put]
  by_cases same : index = argument.index
  · subst same
    exact ⟨argument, by simp, refines earlier found⟩
  · exact ⟨earlier, by simp [same, found], .refl earlier⟩

/-! ## One declaration -/

/-- The ways in which a declaration can go: the table that it leaves behind, and its result. -/
inductive Outcome
    (table : ArgumentTable)
    (reference : Reference) :
    ArgumentTable →
    Except ArgumentFault Nat →
    Prop where
  | byName
      (noIndex : reference.index = none) :
      Outcome table reference table (table.resolve reference)
  | tooLarge
      {index : Nat}
      (indexed : reference.index = some index)
      (beyond : argumentLimit ≤ index) :
      Outcome table reference table (.error (.indexTooLarge index))
  | nameReused
      {index other : Nat}
      {name : String}
      (indexed : reference.index = some index)
      (used : table.otherIndexOfName? index reference = some (name, other)) :
      Outcome table reference table (.error (.nameReused name other))
  | placed
      {index : Nat}
      (indexed : reference.index = some index)
      (bounded : index < argumentLimit)
      (unused : table.otherIndexOfName? index reference = none)
      (free : table.at? index = none) :
      Outcome table reference (table.put (fresh index reference)) (.ok index)
  | nameRefused
      {index : Nat}
      {argument : Argument}
      {fault : ArgumentFault}
      (indexed : reference.index = some index)
      (found : table.at? index = some argument)
      (refused : withName argument reference.name = .error fault) :
      Outcome table reference table (.error fault)
  | typeRefused
      {index : Nat}
      {argument named : Argument}
      {fault : ArgumentFault}
      (indexed : reference.index = some index)
      (bounded : index < argumentLimit)
      (unused : table.otherIndexOfName? index reference = none)
      (found : table.at? index = some argument)
      (nameAccepted : withName argument reference.name = .ok named)
      (refused : withType named reference.type = .error fault) :
      Outcome table reference (table.put named) (.error fault)
  | restated
      {index : Nat}
      {argument named typed : Argument}
      (indexed : reference.index = some index)
      (bounded : index < argumentLimit)
      (unused : table.otherIndexOfName? index reference = none)
      (found : table.at? index = some argument)
      (nameAccepted : withName argument reference.name = .ok named)
      (typeAccepted : withType named reference.type = .ok typed) :
      Outcome table reference (table.put typed) (.ok argument.index)

theorem outcome_declare
    (table : ArgumentTable)
    (reference : Reference) :
    Outcome table reference (table.declare reference).1 (table.declare reference).2 := by
  unfold declare
  split
  · exact .byName ‹_›
  · rename_i index indexed
    split
    · exact .tooLarge indexed ‹_›
    · rename_i withinLimit
      have bounded : index < argumentLimit := Nat.lt_of_not_le withinLimit
      split
      · exact .nameReused indexed ‹_›
      · rename_i unused
        split
        · exact .placed indexed bounded unused ‹_›
        · rename_i argument found
          unfold restate
          split
          · exact .nameRefused indexed found ‹_›
          · rename_i named nameAccepted
            split
            · exact .typeRefused indexed bounded unused found nameAccepted ‹_›
            · exact .restated indexed bounded unused found nameAccepted ‹_›

/-- A placeholder for an argument that is there states its name and type once more, if its name is
found for no other index. -/
theorem declare_eq_restate
    {table : ArgumentTable}
    {reference : Reference}
    {index : Nat}
    {argument : Argument}
    (indexed : reference.index = some index)
    (bounded : index < argumentLimit)
    (unused : table.otherIndexOfName? index reference = none)
    (found : table.at? index = some argument) :
    table.declare reference = table.restate argument reference := by
  unfold declare
  rw [indexed]
  simp only
  rw [if_neg (Nat.not_le.mpr bounded), unused]
  simp only
  rw [found]

/-- The argument that a placeholder may put into a table: it is at the index of the placeholder,
goes on from what stands there, and bears its default name or a name that has been stated. -/
structure Declares
    (table : ArgumentTable)
    (reference : Reference)
    (argument : Argument) :
    Prop where
  index : reference.index = some argument.index
  bounded : argument.index < argumentLimit
  refines : ∀ earlier, table.at? argument.index = some earlier → argument.Refines earlier
  stated :
    argument.nameStated →
      reference.name = some argument.name ∨
        ∃ earlier, table.at? argument.index = some earlier ∧ earlier.nameStated ∧
          argument.name = earlier.name
  unstated : argument.nameStated = false → argument.name = defaultName argument.index

theorem withName_eq_ok
    {argument named : Argument}
    {stated : Option String}
    (accepted : withName argument stated = .ok named) :
    named.Refines argument ∧ named.type = argument.type ∧
      named.typeStated = argument.typeStated ∧
      (∀ name, stated = some name → named.nameStated ∧ named.name = name) ∧
      (stated = none → named = argument) := by
  unfold withName at accepted
  split at accepted
  · cases accepted
    exact ⟨.refl argument, rfl, rfl, by simp, fun _ => rfl⟩
  · rename_i name
    split at accepted
    · cases accepted
    · rename_i agrees
      cases accepted
      refine ⟨⟨rfl, fun stated => ⟨rfl, ?_⟩, fun stated => ⟨stated, rfl⟩⟩, rfl, rfl, ?_, by simp⟩
      · simp only [stated, Bool.true_and, bne_iff_ne, ne_eq, Decidable.not_not] at agrees
        exact agrees.symm
      · rintro _ ⟨⟩
        exact ⟨rfl, rfl⟩

theorem withType_eq_ok
    {argument typed : Argument}
    {stated : Option ArgumentType}
    (accepted : withType argument stated = .ok typed) :
    typed.Refines argument ∧ typed.name = argument.name ∧
      typed.nameStated = argument.nameStated ∧
      ∀ type, stated = some type → typed.typeStated ∧ typed.type = type := by
  unfold withType at accepted
  split at accepted
  · cases accepted
    exact ⟨.refl argument, rfl, rfl, by simp⟩
  · rename_i type
    split at accepted
    · cases accepted
    · rename_i agrees
      cases accepted
      refine ⟨⟨rfl, fun stated => ⟨stated, rfl⟩, fun stated => ⟨rfl, ?_⟩⟩, rfl, rfl, ?_⟩
      · simp only [stated, Bool.true_and, bne_iff_ne, ne_eq, Decidable.not_not] at agrees
        exact agrees.symm
      · rintro _ ⟨⟩
        exact ⟨rfl, rfl⟩

theorem declares_fresh
    {table : ArgumentTable}
    {reference : Reference}
    {index : Nat}
    (indexed : reference.index = some index)
    (bounded : index < argumentLimit)
    (free : table.at? index = none) :
    table.Declares reference (fresh index reference) := by
  refine ⟨indexed, bounded, ?_, ?_, ?_⟩
  · intro earlier found
    simp only [fresh] at found
    rw [free] at found
    cases found
  · intro stated
    obtain ⟨name, same⟩ := Option.isSome_iff_exists.mp stated
    exact .inl (by simp [fresh, same])
  · intro unstated
    have absent : reference.name = none := Option.isNone_iff_eq_none.mp (by
      simpa [fresh] using unstated)
    simp [fresh, absent]

theorem declares_withName
    {table : ArgumentTable}
    {reference : Reference}
    {index : Nat}
    {argument named : Argument}
    (wellFormed : table.WellFormed)
    (indexed : reference.index = some index)
    (bounded : index < argumentLimit)
    (found : table.at? index = some argument)
    (accepted : withName argument reference.name = .ok named) :
    table.Declares reference named := by
  have placed := wellFormed.placed index argument found
  obtain ⟨refined, _, _, states, keeps⟩ := withName_eq_ok accepted
  have namedIndex : named.index = index := refined.index.trans placed
  refine ⟨by rw [namedIndex, indexed], by rw [namedIndex]; exact bounded, ?_, ?_, ?_⟩
  · intro earlier earlierFound
    rw [namedIndex, found] at earlierFound
    cases earlierFound
    exact refined
  · intro stated
    cases name : reference.name with
    | some written =>
        exact .inl (congrArg some (states written name).2.symm)
    | none =>
        rw [namedIndex]
        rw [keeps name] at stated ⊢
        exact .inr ⟨argument, found, stated, rfl⟩
  · intro unstated
    cases name : reference.name with
    | some written =>
        rw [(states written name).1] at unstated
        cases unstated
    | none =>
        rw [keeps name] at unstated ⊢
        rw [placed]
        exact wellFormed.named index argument found unstated

/-- A type that is stated after a name leaves the declaration of the name as it is. -/
theorem Declares.withType
    {table : ArgumentTable}
    {reference : Reference}
    {stated : Option ArgumentType}
    {named typed : Argument}
    (declares : table.Declares reference named)
    (accepted : withType named stated = .ok typed) :
    table.Declares reference typed := by
  obtain ⟨refined, name, nameStated, _⟩ := withType_eq_ok accepted
  have index := refined.index
  refine ⟨by rw [index]; exact declares.index, by rw [index]; exact declares.bounded, ?_, ?_, ?_⟩
  · intro earlier found
    rw [index] at found
    exact (declares.refines earlier found).trans refined
  · intro stated
    rw [nameStated] at stated
    rw [name, index]
    exact declares.stated stated
  · intro unstated
    rw [nameStated] at unstated
    rw [name, index]
    exact declares.unstated unstated

/-- The type of an argument that a placeholder may put into a table, if one has been stated, goes
back to the placeholder or to what stands there. -/
def TypedBy
    (table : ArgumentTable)
    (reference : Reference)
    (argument : Argument) :
    Prop :=
  argument.typeStated →
    reference.type = some argument.type ∨
      ∃ earlier, table.at? argument.index = some earlier ∧ earlier.typeStated ∧
        earlier.type = argument.type

theorem typedBy_fresh
    (table : ArgumentTable)
    (reference : Reference)
    (index : Nat) :
    table.TypedBy reference (fresh index reference) := by
  intro stated
  obtain ⟨type, same⟩ := Option.isSome_iff_exists.mp stated
  exact .inl (by simp [fresh, same])

theorem typedBy_withName
    {table : ArgumentTable}
    {reference : Reference}
    {index : Nat}
    {argument named : Argument}
    (wellFormed : table.WellFormed)
    (found : table.at? index = some argument)
    (accepted : withName argument reference.name = .ok named) :
    table.TypedBy reference named := by
  obtain ⟨refined, type, typeStated, _, _⟩ := withName_eq_ok accepted
  have namedIndex : named.index = index :=
    refined.index.trans (wellFormed.placed index argument found)
  intro stated
  rw [typeStated] at stated
  exact .inr ⟨argument, by rw [namedIndex]; exact found, stated, type.symm⟩

theorem TypedBy.withType
    {table : ArgumentTable}
    {reference : Reference}
    {named typed : Argument}
    (typedBy : table.TypedBy reference named)
    (accepted : withType named reference.type = .ok typed) :
    table.TypedBy reference typed := by
  intro stated
  cases written : reference.type with
  | some type =>
      obtain ⟨_, _, _, states⟩ := withType_eq_ok accepted
      exact .inl (congrArg some (states type written).2.symm)
  | none =>
      rw [written] at accepted
      cases accepted
      rw [← written]
      exact typedBy stated

/-- A declaration leaves a table alone or puts one argument into it. -/
theorem declare_cases
    {table : ArgumentTable}
    (wellFormed : table.WellFormed)
    (reference : Reference) :
    (table.declare reference).1 = table ∨
      ∃ argument,
        table.Declares reference argument ∧
        table.TypedBy reference argument ∧
        (table.declare reference).1 = table.put argument := by
  have outcome := outcome_declare table reference
  generalize (table.declare reference).1 = changed at outcome ⊢
  generalize (table.declare reference).2 = result at outcome
  cases outcome with
  | byName | tooLarge | nameReused | nameRefused =>
      exact .inl rfl
  | placed indexed bounded _ free =>
      exact .inr ⟨_, declares_fresh indexed bounded free, typedBy_fresh table reference _, rfl⟩
  | typeRefused indexed bounded _ found nameAccepted _ =>
      have declares := declares_withName wellFormed indexed bounded found nameAccepted
      exact .inr ⟨_, declares, typedBy_withName wellFormed found nameAccepted, rfl⟩
  | restated indexed bounded _ found nameAccepted typeAccepted =>
      have declares := declares_withName wellFormed indexed bounded found nameAccepted
      have typedBy := typedBy_withName wellFormed found nameAccepted
      exact .inr ⟨_, declares.withType typeAccepted, typedBy.withType typeAccepted, rfl⟩

/-- What has been stated stays when a placeholder is declared, whether it succeeds or not. -/
theorem extends_declare
    {table : ArgumentTable}
    (wellFormed : table.WellFormed)
    (reference : Reference) :
    (table.declare reference).1.Extends table := by
  rcases declare_cases wellFormed reference with same | ⟨argument, declares, -, same⟩
  · rw [same]
    exact .refl table
  · rw [same]
    exact extends_put declares.refines

/-- Every name that has been stated was stated by one of some placeholders. -/
def StatedBy
    (table : ArgumentTable)
    (references : List Reference) :
    Prop :=
  ∀ index argument, table.at? index = some argument → argument.nameStated →
    ∃ reference ∈ references,
      reference.index = some index ∧ reference.name = some argument.name

theorem wellFormed_put
    {table : ArgumentTable}
    {reference : Reference}
    {argument : Argument}
    (wellFormed : table.WellFormed)
    (declares : table.Declares reference argument) :
    (table.put argument).WellFormed := by
  constructor
  · intro index found
    rw [at?_put]
    split
    · rename_i same
      rintro ⟨⟩
      exact same.symm
    · exact wellFormed.placed index found
  · intro index found
    rw [at?_put]
    split
    · rename_i same
      rintro ⟨⟩ unstated
      rw [same]
      exact declares.unstated unstated
    · exact wellFormed.named index found

theorem statedBy_put
    {table : ArgumentTable}
    {references : List Reference}
    {reference : Reference}
    {argument : Argument}
    (stated : table.StatedBy references)
    (member : reference ∈ references)
    (declares : table.Declares reference argument) :
    (table.put argument).StatedBy references := by
  intro index found
  rw [at?_put]
  split
  · rename_i same
    rintro ⟨⟩ nameStated
    rcases declares.stated nameStated with named | ⟨earlier, earlierFound, earlierStated, name⟩
    · exact ⟨reference, member, by rw [same]; exact declares.index, named⟩
    · rw [same, name]
      exact stated _ earlier earlierFound earlierStated
  · exact stated index found

/-- A state of a table after some placeholders: it is well formed, and every name that has been
stated was stated by one of them. -/
structure Arisen
    (references : List Reference)
    (table : ArgumentTable) :
    Prop where
  wellFormed : table.WellFormed
  stated : table.StatedBy references

theorem arisen_empty
    (references : List Reference) :
    Arisen references {} := by
  refine ⟨wellFormed_empty, ?_⟩
  intro index argument found
  simp [at?] at found

/-- What a declaration preserves, whether it succeeds or not. -/
theorem Arisen.declare
    {references : List Reference}
    {table : ArgumentTable}
    {reference : Reference}
    (arisen : Arisen references table)
    (member : reference ∈ references) :
    Arisen references (table.declare reference).1 ∧
      (table.declare reference).1.Extends table := by
  refine ⟨?_, extends_declare arisen.wellFormed reference⟩
  rcases declare_cases arisen.wellFormed reference with same | ⟨argument, declares, _, same⟩
  · rw [same]
    exact arisen
  · rw [same]
    exact ⟨wellFormed_put arisen.wellFormed declares, statedBy_put arisen.stated member declares⟩

/-! ## Declarations that succeed -/

/-- What a table says about the argument of an indexed placeholder agrees with the placeholder. -/
def Honours
    (table : ArgumentTable)
    (reference : Reference)
    (index : Nat) :
    Prop :=
  ∃ argument,
    table.at? index = some argument ∧
    (∀ name, reference.name = some name → argument.nameStated ∧ argument.name = name) ∧
    ∀ type, reference.type = some type → argument.typeStated ∧ argument.type = type

theorem Honours.mono
    {earlier later : ArgumentTable}
    {reference : Reference}
    {index : Nat}
    (honoured : earlier.Honours reference index)
    (further : later.Extends earlier) :
    later.Honours reference index := by
  obtain ⟨argument, found, names, types⟩ := honoured
  obtain ⟨last, lastFound, refined⟩ := further index argument found
  refine ⟨last, lastFound, fun name stated => ?_, fun type stated => ?_⟩
  · obtain ⟨nameStated, same⟩ := names name stated
    obtain ⟨lastStated, lastSame⟩ := refined.name nameStated
    exact ⟨lastStated, lastSame.trans same⟩
  · obtain ⟨typeStated, same⟩ := types type stated
    obtain ⟨lastStated, lastSame⟩ := refined.type typeStated
    exact ⟨lastStated, lastSame.trans same⟩

theorem honours_fresh
    (table : ArgumentTable)
    (index : Nat)
    (reference : Reference) :
    (table.put (fresh index reference)).Honours reference index := by
  refine ⟨fresh index reference, by simp [at?_put, fresh], ?_, ?_⟩
  · intro name stated
    simp [fresh, stated]
  · intro type stated
    simp [fresh, stated]

/-- An indexed placeholder that is declared keeps its index, and the table then agrees with it. -/
theorem honours_of_declare
    {table : ArgumentTable}
    {reference : Reference}
    {index declared : Nat}
    (wellFormed : table.WellFormed)
    (indexed : reference.index = some index)
    (succeeded : (table.declare reference).2 = .ok declared) :
    declared = index ∧ (table.declare reference).1.Honours reference index := by
  have outcome := outcome_declare table reference
  generalize (table.declare reference).1 = changed at outcome ⊢
  generalize (table.declare reference).2 = result at outcome succeeded
  cases outcome with
  | byName noIndex =>
      rw [indexed] at noIndex
      cases noIndex
  | tooLarge | nameReused | nameRefused | typeRefused =>
      cases succeeded
  | placed written =>
      rw [indexed] at written
      cases written
      cases succeeded
      exact ⟨rfl, honours_fresh table index reference⟩
  | @restated own argument named typed written _ _ found nameAccepted typeAccepted =>
      rw [indexed] at written
      cases written
      cases succeeded
      have placed := wellFormed.placed index argument found
      obtain ⟨nameRefined, -, -, names, -⟩ := withName_eq_ok nameAccepted
      obtain ⟨typeRefined, typedName, typedStated, types⟩ := withType_eq_ok typeAccepted
      have typedIndex : typed.index = index :=
        typeRefined.index.trans (nameRefined.index.trans placed)
      refine ⟨placed, typed, by simp [at?_put, typedIndex], fun name stated => ?_, types⟩
      rw [typedName, typedStated]
      exact names name stated

/-- What is left of resolving a placeholder once its name agrees: a type agrees as well if one is
written. -/
theorem resolveType_eq_ok_iff
    {argument : Argument}
    {stated : Option ArgumentType}
    {index : Nat} :
    (match stated with
      | some type =>
          if argument.type ≠ type then do
            throw (ArgumentFault.otherType argument.name argument.type type)
            return argument.index
          else
            return argument.index
      | _ => return argument.index : Except ArgumentFault Nat) = .ok index ↔
      argument.index = index ∧ ∀ type, stated = some type → argument.type = type := by
  constructor
  · intro succeeded
    split at succeeded
    · rename_i type
      split at succeeded
      · cases succeeded
      · rename_i agrees
        cases succeeded
        refine ⟨rfl, ?_⟩
        rintro _ ⟨⟩
        exact Decidable.not_not.mp agrees
    · rename_i absent
      cases succeeded
      exact ⟨rfl, fun type same => absurd same (absent type)⟩
  · rintro ⟨rfl, agrees⟩
    cases stated with
    | none =>
        rfl
    | some type =>
        exact if_neg (not_not.mpr (agrees type rfl))

/-- A placeholder that is resolved agrees with the argument that it refers to. -/
theorem resolve_eq_ok
    {table : ArgumentTable}
    {reference : Reference}
    {index : Nat}
    (wellFormed : table.WellFormed)
    (resolved : table.resolve reference = .ok index) :
    ∃ argument,
      table.at? index = some argument ∧
      (reference.index = some index ∨
        reference.index = none ∧ reference.name = some argument.name) ∧
      (∀ name, reference.name = some name → argument.name = name) ∧
      ∀ type, reference.type = some type → argument.type = type := by
  obtain ⟨writtenIndex, writtenName, writtenType⟩ := reference
  cases writtenIndex with
  | some written =>
      cases found : table.at? written with
      | none =>
          simp only [resolve, found] at resolved
          split at resolved <;> cases resolved
      | some argument =>
          have placed := wellFormed.placed written argument found
          cases writtenName with
          | none =>
              simp only [resolve, found] at resolved
              obtain ⟨same, types⟩ := resolveType_eq_ok_iff.mp resolved
              rw [placed] at same
              subst same
              exact ⟨argument, found, .inl rfl, by simp, types⟩
          | some name =>
              simp only [resolve, found] at resolved
              obtain ⟨declared, same, rest⟩ := bind_eq_ok resolved
              cases same
              split at rest
              · cases rest
              · rename_i agrees
                obtain ⟨same, types⟩ := resolveType_eq_ok_iff.mp rest
                rw [placed] at same
                subst same
                refine ⟨argument, found, .inl rfl, ?_, types⟩
                rintro _ ⟨⟩
                exact Decidable.not_not.mp agrees
  | none =>
      cases writtenName with
      | none =>
          simp only [resolve] at resolved
          cases resolved
      | some name =>
          cases looked : table.named? name with
          | none =>
              simp only [resolve, looked] at resolved
              cases resolved
          | some argument =>
              simp only [resolve, looked] at resolved
              obtain ⟨same, types⟩ := resolveType_eq_ok_iff.mp resolved
              obtain ⟨named, position, found⟩ := at?_of_named? looked
              have placed := wellFormed.placed position argument found
              rw [placed] at same
              subst same
              refine ⟨argument, found, .inr ⟨rfl, congrArg some named.symm⟩, ?_, types⟩
              rintro _ ⟨⟩
              exact named

/-- A placeholder by name refers to an argument that bears the name when it is declared. -/
theorem named_of_declare
    {table : ArgumentTable}
    {reference : Reference}
    {index : Nat}
    (wellFormed : table.WellFormed)
    (noIndex : reference.index = none)
    (succeeded : (table.declare reference).2 = .ok index) :
    (table.declare reference).1 = table ∧
      ∃ argument, table.at? index = some argument ∧ reference.name = some argument.name := by
  unfold declare at succeeded ⊢
  rw [noIndex] at succeeded ⊢
  obtain ⟨argument, found, written, _, _⟩ := resolve_eq_ok wellFormed succeeded
  rcases written with indexed | ⟨_, named⟩
  · rw [noIndex] at indexed
    cases indexed
  · exact ⟨rfl, argument, found, named⟩

/-! ## Complete tables -/

theorem ne_of_firstSameName?
    {earlier arguments : List Argument}
    (noFault : firstSameName? earlier arguments = none) :
    arguments.Pairwise (fun first second => first.name ≠ second.name) ∧
      ∀ first ∈ earlier, ∀ second ∈ arguments, first.name ≠ second.name := by
  induction arguments generalizing earlier with
  | nil =>
      exact ⟨.nil, by simp⟩
  | cons argument rest inductionHypothesis =>
      rw [firstSameName?] at noFault
      split at noFault
      · cases noFault
      · rename_i differs
        obtain ⟨apart, fromEarlier⟩ := inductionHypothesis noFault
        have argumentDiffers : ∀ first ∈ earlier, first.name ≠ argument.name := by
          intro first member same
          have missed := List.find?_eq_none.mp differs first member
          exact missed (beq_iff_eq.mpr same)
        refine ⟨List.pairwise_cons.mpr ⟨fun second member => ?_, apart⟩, ?_⟩
        · exact fromEarlier argument (by simp) second member
        · intro first member
          refine List.forall_mem_cons.mpr ⟨argumentDiffers first member, fun second => ?_⟩
          exact fromEarlier first (by simp [member]) second

/-- A table that is complete has an argument at each index below its size, and no two of them
share a name. -/
theorem complete_of_checkComplete
    {table : ArgumentTable}
    (checked : table.checkComplete = .ok ()) :
    table.slots = table.arguments.map some ∧
      table.arguments.Pairwise (fun first second => first.name ≠ second.name) := by
  unfold checkComplete at checked
  split at checked
  · cases checked
  · rename_i noGap
    split at checked
    · cases checked
    · rename_i noFault
      refine ⟨?_, (ne_of_firstSameName? noFault).1⟩
      have full : ∀ slot ∈ table.slots, slot.isNone = false :=
        List.findIdx?_eq_none_iff.mp noGap
      unfold arguments
      generalize table.slots = slots at full
      induction slots with
      | nil =>
          rfl
      | cons slot slots inductionHypothesis =>
          rw [List.forall_mem_cons] at full
          cases slot with
          | none =>
              cases full.1
          | some argument =>
              exact congrArg (some argument :: ·) (inductionHypothesis full.2)

/-- An argument of a complete table has an index below their number. -/
theorem lt_length_of_at?
    {table : ArgumentTable}
    {index : Nat}
    {argument : Argument}
    (complete : table.checkComplete = .ok ())
    (found : table.at? index = some argument) :
    index < table.arguments.length := by
  have full := (complete_of_checkComplete complete).1
  have slot := at?_eq_some_iff.mp found
  obtain ⟨inside, _⟩ := List.getElem?_eq_some_iff.mp slot
  rw [full, List.length_map] at inside
  exact inside

/-- The arguments of a complete table are numbered in order. -/
theorem indices_of_complete
    {table : ArgumentTable}
    (wellFormed : table.WellFormed)
    (complete : table.checkComplete = .ok ()) :
    table.arguments.map Argument.index = List.range table.arguments.length := by
  have full := (complete_of_checkComplete complete).1
  refine List.ext_getElem (by simp) fun index inside _ => ?_
  rw [List.length_map] at inside
  rw [List.getElem_map, List.getElem_range]
  refine wellFormed.placed index _ (at?_eq_some_iff.mpr ?_)
  rw [full, List.getElem?_map, List.getElem?_eq_getElem inside]
  rfl

/-- In a complete table a name has one index at most. -/
theorem index_unique_of_complete
    {table : ArgumentTable}
    {first second : Nat}
    {firstArgument secondArgument : Argument}
    (complete : table.checkComplete = .ok ())
    (firstFound : table.at? first = some firstArgument)
    (secondFound : table.at? second = some secondArgument)
    (same : firstArgument.name = secondArgument.name) :
    first = second := by
  obtain ⟨full, apart⟩ := complete_of_checkComplete complete
  have position :
      ∀ {index : Nat} {argument : Argument}, table.at? index = some argument →
        table.arguments[index]? = some argument := by
    intro index argument found
    have slot := at?_eq_some_iff.mp found
    rw [full, List.getElem?_map] at slot
    obtain ⟨placed, placedAt, placedSame⟩ := Option.map_eq_some_iff.mp slot
    cases placedSame
    exact placedAt
  obtain ⟨firstBounded, firstAt⟩ := List.getElem?_eq_some_iff.mp (position firstFound)
  obtain ⟨secondBounded, secondAt⟩ := List.getElem?_eq_some_iff.mp (position secondFound)
  rw [List.pairwise_iff_getElem] at apart
  rcases Nat.lt_trichotomy first second with before | equal | after
  · have differ := apart first second firstBounded secondBounded before
    rw [firstAt, secondAt] at differ
    exact absurd same differ
  · exact equal
  · have differ := apart second first secondBounded firstBounded after
    rw [firstAt, secondAt] at differ
    exact absurd same.symm differ

end ArgumentTable

end Phrasebook.Placeholder
