import Phrasebook.Proofs.Placeholder.Resolution
import Phrasebook.Proofs.Placeholder.Scanner
import Phrasebook.Proofs.Placeholder.Shape

namespace Phrasebook.Placeholder

/-!
# Arguments kept apart

Whatever is declared, a table has no more slots than there may be arguments, and each argument
stands at its own index. A name that is stated is refused if another argument bears it. Only the
first argument of a name is looked at, however, so an argument that bears its default name may be
given that name although it has been stated for a later argument. This is the one way in which two
arguments come to share a name that is stated for both.
-/

/-- Whether a placeholder states a type only together with an index and a name. -/
def Reference.TypesNamed
    (reference : Reference) :
    Prop :=
  reference.type.isSome → reference.index.isSome ∧ reference.name.isSome

/-- The placeholders of a message state types only together with indices and names. -/
theorem typesNamed_of_scan
    {message : String}
    {tokens : List Token}
    {reference : Reference}
    (scanned : scan message = .ok tokens)
    (isMember : .argument reference ∈ tokens) :
    reference.TypesNamed := by
  obtain ⟨content, isReference⟩ := referenceOf_of_scan scanned isMember
  have placeholder := referenceOf_eq_some_iff.mp isReference
  cases placeholder.shape with
  | typed =>
      exact fun _ => ⟨rfl, rfl⟩
  | index | named | name =>
      intro typed
      cases typed

namespace ArgumentTable

/-! ## Failed declarations -/

/-- Whether each argument whose type has been stated has had its name stated. -/
def TypesNamed
    (table : ArgumentTable) :
    Prop :=
  ∀ index argument, table.at? index = some argument → argument.typeStated → argument.nameStated

theorem typesNamed_empty :
    TypesNamed {} := by
  simp [TypesNamed, at?]

theorem typesNamed_put
    {table : ArgumentTable}
    {argument : Argument}
    (typesNamed : table.TypesNamed)
    (named : argument.typeStated → argument.nameStated) :
    (table.put argument).TypesNamed := by
  intro index placed found
  rw [at?_put] at found
  by_cases same : index = argument.index
  · rw [if_pos same] at found
    cases found
    exact named
  · rw [if_neg same] at found
    exact typesNamed index placed found

/-- A name that has been stated already changes nothing when it is stated once more. -/
theorem withName_eq_self
    {argument named : Argument}
    {stated : Option String}
    (nameStated : argument.nameStated)
    (accepted : withName argument stated = .ok named) :
    named = argument := by
  unfold withName at accepted
  split at accepted
  · cases accepted
    rfl
  · rename_i name
    split at accepted
    · cases accepted
    · rename_i agrees
      simp only [nameStated, Bool.true_and, bne_iff_ne, ne_eq, Decidable.not_not] at agrees
      cases accepted
      rw [← agrees, ← nameStated]

/-- A type is refused only where one has been stated. -/
theorem typeStated_of_withType
    {argument : Argument}
    {stated : Option ArgumentType}
    {fault : ArgumentFault}
    (refused : withType argument stated = .error fault) :
    argument.typeStated := by
  unfold withType at refused
  split at refused
  · cases refused
  · split at refused
    · rename_i differs
      exact (Bool.and_eq_true_iff.mp differs).1
    · cases refused

/-- An argument that a placeholder states once more has a name if it has a type. -/
theorem nameStated_of_restated
    {argument named typed : Argument}
    {reference : Reference}
    (producible : reference.TypesNamed)
    (before : argument.typeStated → argument.nameStated)
    (nameAccepted : withName argument reference.name = .ok named)
    (typeAccepted : withType named reference.type = .ok typed)
    (typeStated : typed.typeStated) :
    typed.nameStated := by
  obtain ⟨refined, -, sameTypeStated, names, -⟩ := withName_eq_ok nameAccepted
  obtain ⟨-, -, sameNameStated, -⟩ := withType_eq_ok typeAccepted
  rw [sameNameStated]
  cases written : reference.type with
  | some type =>
      obtain ⟨name, states⟩ :=
        Option.isSome_iff_exists.mp (producible (by rw [written]; rfl)).2
      exact (names name states).1
  | none =>
      rw [written] at typeAccepted
      cases typeAccepted
      rw [sameTypeStated] at typeStated
      exact (refined.name (before typeStated)).1

/-- A placeholder that states a type only with a name preserves that types have names, and leaves a
table as it was if it is refused. -/
theorem TypesNamed.declare
    {table : ArgumentTable}
    {reference : Reference}
    (typesNamed : table.TypesNamed)
    (wellFormed : table.WellFormed)
    (producible : reference.TypesNamed) :
    (table.declare reference).1.TypesNamed ∧
      ∀ fault, (table.declare reference).2 = .error fault →
        (table.declare reference).1 = table := by
  have outcome := outcome_declare table reference
  generalize (table.declare reference).1 = changed at outcome ⊢
  generalize (table.declare reference).2 = result at outcome ⊢
  cases outcome with
  | byName | tooLarge | nameReused | nameRefused =>
      exact ⟨typesNamed, fun _ _ => rfl⟩
  | placed =>
      refine ⟨typesNamed_put typesNamed fun typed => (producible typed).2, ?_⟩
      rintro fault ⟨⟩
  | @typeRefused index argument named _ _ _ _ found nameAccepted refused =>
      -- A type that is refused has been stated before, and so has the name.
      have typeStated := typeStated_of_withType refused
      obtain ⟨-, -, sameTypeStated, -, -⟩ := withName_eq_ok nameAccepted
      rw [sameTypeStated] at typeStated
      have nameStated := typesNamed index argument found typeStated
      have unchanged : table.put named = table := by
        rw [withName_eq_self nameStated nameAccepted]
        apply put_of_at?
        rw [wellFormed.placed index argument found]
        exact found
      rw [unchanged]
      exact ⟨typesNamed, fun _ _ => rfl⟩
  | @restated index argument _ _ _ _ _ found nameAccepted typeAccepted =>
      refine ⟨typesNamed_put typesNamed ?_, ?_⟩
      · exact nameStated_of_restated producible (typesNamed index argument found) nameAccepted
          typeAccepted
      · rintro fault ⟨⟩

theorem typesNamed_declareAll
    {references : List Reference}
    (producible : ∀ reference ∈ references, reference.TypesNamed) :
    (declareAll {} references).TypesNamed := by
  induction references using List.reverseRecOn with
  | nil =>
      exact typesNamed_empty
  | append_singleton references last inductionHypothesis =>
      rw [List.forall_mem_append] at producible
      rw [declareAll_append]
      have typesNamed := inductionHypothesis producible.1
      have wellFormed := (goesBackTo_declareAll references).wellFormed
      exact (typesNamed.declare wellFormed (producible.2 last (List.mem_singleton_self last))).1

/-! ## The first argument of a name -/

/-- The name of an argument is looked up to the first argument that bears it. -/
theorem exists_first_of_at?
    {table : ArgumentTable}
    {index : Nat}
    {argument : Argument}
    (wellFormed : table.WellFormed)
    (found : table.at? index = some argument) :
    ∃ first,
      table.named? argument.name = some first ∧
      table.at? first.index = some first ∧
      first.name = argument.name ∧
      first.index ≤ index := by
  obtain ⟨first, looked⟩ := Option.isSome_iff_exists.mp (named?_isSome_of_at? found)
  obtain ⟨sameName, position, firstFound⟩ := at?_of_named? looked
  refine ⟨first, looked, ?_, sameName, ?_⟩
  · rw [wellFormed.placed position first firstFound]
    exact firstFound
  · have ordered : table.arguments.Pairwise fun first second => first.index < second.index := by
      refine pairwise_arguments fun first second argument other before found otherFound => ?_
      rw [wellFormed.placed first argument found, wellFormed.placed second other otherFound]
      exact before
    obtain ⟨-, earlier, later, shape, missed⟩ := List.find?_eq_some_iff_append.mp looked
    have isMember : argument ∈ table.arguments := mem_arguments_iff.mpr ⟨index, found⟩
    rw [← wellFormed.placed index argument found]
    rw [shape] at ordered isMember
    rcases List.mem_append.mp isMember with isEarlier | isFirstOrLater
    · have differs := missed argument isEarlier
      simp at differs
    · rcases List.mem_cons.mp isFirstOrLater with rfl | isLater
      · exact Nat.le_refl _
      · have fromFirst := (List.pairwise_append.mp ordered).2.1
        exact Nat.le_of_lt ((List.pairwise_cons.mp fromFirst).1 argument isLater)

/-! ## Shared names -/

/-- Whether two arguments share a name that has been stated for both. -/
def SharesName
    (table : ArgumentTable) :
    Prop :=
  ∃ first second argument other,
    first ≠ second ∧
    table.at? first = some argument ∧
    table.at? second = some other ∧
    argument.nameStated ∧
    other.nameStated ∧
    argument.name = other.name

/-- Whether a placeholder states for an argument the default name that it bears, although this name
has been stated for a later argument. -/
def TakesDefaultName
    (table : ArgumentTable)
    (reference : Reference) :
    Prop :=
  ∃ index later argument other,
    reference.index = some index ∧
    reference.name = some (defaultName index) ∧
    index < later ∧
    table.at? index = some argument ∧
    argument.nameStated = false ∧
    table.at? later = some other ∧
    other.nameStated ∧
    other.name = defaultName index

theorem SharesName.mono
    {earlier later : ArgumentTable}
    (shares : earlier.SharesName)
    (further : later.Extends earlier) :
    later.SharesName := by
  obtain ⟨first, second, argument, other, differ, found, otherFound, stated, otherStated, same⟩ :=
    shares
  obtain ⟨last, lastFound, refined⟩ := further first argument found
  obtain ⟨otherLast, otherLastFound, otherRefined⟩ := further second other otherFound
  obtain ⟨lastStated, lastName⟩ := refined.name stated
  obtain ⟨otherLastStated, otherLastName⟩ := otherRefined.name otherStated
  refine ⟨first, second, last, otherLast, differ, lastFound, otherLastFound, lastStated,
    otherLastStated, ?_⟩
  rw [lastName, otherLastName, same]

/-- As long as no two arguments share a name, a name that has been stated has one index. -/
theorem index_eq_of_apart
    {table : ArgumentTable}
    {first second : Nat}
    {argument other : Argument}
    (apart : ¬table.SharesName)
    (found : table.at? first = some argument)
    (otherFound : table.at? second = some other)
    (stated : argument.nameStated)
    (otherStated : other.nameStated)
    (same : argument.name = other.name) :
    first = second := by
  by_contra differ
  exact apart ⟨first, second, argument, other, differ, found, otherFound, stated, otherStated, same⟩

/-- If two arguments share a name after one has been put into a table, they shared it before or it
is the name of the new one. -/
theorem SharesName.of_put
    {table : ArgumentTable}
    {argument : Argument}
    (shares : (table.put argument).SharesName) :
    table.SharesName ∨
      argument.nameStated ∧
      ∃ index other,
        index ≠ argument.index ∧
        table.at? index = some other ∧
        other.nameStated ∧
        other.name = argument.name := by
  obtain ⟨first, second, one, other, differ, found, otherFound, stated, otherStated, same⟩ := shares
  rw [at?_put] at found otherFound
  by_cases firstHere : first = argument.index
  · rw [if_pos firstHere] at found
    have elsewhere : second ≠ argument.index := fun here => differ (firstHere.trans here.symm)
    rw [if_neg elsewhere] at otherFound
    cases found
    exact .inr ⟨stated, second, other, elsewhere, otherFound, otherStated, same.symm⟩
  · rw [if_neg firstHere] at found
    by_cases secondHere : second = argument.index
    · rw [if_pos secondHere] at otherFound
      cases otherFound
      exact .inr ⟨otherStated, first, one, firstHere, found, stated, same⟩
    · rw [if_neg secondHere] at otherFound
      exact .inl ⟨first, second, one, other, differ, found, otherFound, stated, otherStated, same⟩

/-- A placeholder whose name is found for another index changes nothing. -/
theorem declare_of_used
    {table : ArgumentTable}
    {reference : Reference}
    {index other : Nat}
    {name : String}
    (indexed : reference.index = some index)
    (used : table.otherIndexOfName? index reference = some (name, other)) :
    (table.declare reference).1 = table := by
  rw [declare, indexed]
  simp only
  split
  · rfl
  · rw [used]

/-- If a declaration lets two arguments share a name, it gives one of them its default name. -/
theorem takesDefaultName_of_declare
    {references : List Reference}
    {table : ArgumentTable}
    {reference : Reference}
    (goesBack : GoesBackTo references table)
    (apart : ¬table.SharesName)
    (shares : (table.declare reference).1.SharesName) :
    table.TakesDefaultName reference := by
  have wellFormed := goesBack.wellFormed
  rcases declare_cases wellFormed reference with same | ⟨argument, declares, -, same⟩
  · rw [same] at shares
    exact absurd shares apart
  rw [same] at shares
  rcases shares.of_put with
    already | ⟨stated, later, other, elsewhere, found, otherStated, sameName⟩
  · exact absurd already apart
  rcases declares.stated stated with
    written | ⟨earlier, earlierFound, earlierStated, sameAsEarlier⟩
  · obtain ⟨first, looked, firstFound, firstName, notAfter⟩ := exists_first_of_at? wellFormed found
    rw [sameName] at looked firstName
    -- If the name were found for another index, the declaration would change nothing.
    have here : first.index = argument.index := by
      by_contra differs
      have used :
          table.otherIndexOfName? argument.index reference =
            some (argument.name, first.index) := by
        simp [otherIndexOfName?, written, looked, differs]
      rw [← same, declare_of_used declares.index used] at shares
      exact apart shares
    rw [here] at firstFound notAfter
    cases firstStated : first.nameStated with
    | true =>
        have equal := index_eq_of_apart apart firstFound found firstStated otherStated
          (firstName.trans sameName.symm)
        exact absurd equal.symm elsewhere
    | false =>
        have isDefault := wellFormed.named _ first firstFound firstStated
        rw [firstName] at isDefault
        rw [isDefault] at written sameName
        exact ⟨_, later, first, other, declares.index, written,
          Nat.lt_of_le_of_ne notAfter elsewhere.symm, firstFound, firstStated, found, otherStated,
          sameName⟩
  · have equal := index_eq_of_apart apart earlierFound found earlierStated otherStated
      (sameAsEarlier.symm.trans sameName.symm)
    exact absurd equal.symm elsewhere

theorem sharesName_put
    {table : ArgumentTable}
    {argument other : Argument}
    {index : Nat}
    (elsewhere : index ≠ argument.index)
    (found : table.at? index = some other)
    (otherStated : other.nameStated)
    (stated : argument.nameStated)
    (same : other.name = argument.name) :
    (table.put argument).SharesName := by
  refine ⟨argument.index, index, argument, other, elsewhere.symm, ?_, ?_, stated, otherStated,
    same.symm⟩
  · rw [at?_put, if_pos rfl]
  · rw [at?_put, if_neg elsewhere, found]

/-- The default name of an argument is found for no other index as long as no two arguments share a
name, if it has been stated for one of them. -/
theorem otherIndexOfName?_of_default
    {table : ArgumentTable}
    {reference : Reference}
    {index later : Nat}
    {argument other : Argument}
    (wellFormed : table.WellFormed)
    (apart : ¬table.SharesName)
    (written : reference.name = some (defaultName index))
    (before : index < later)
    (found : table.at? index = some argument)
    (unstated : argument.nameStated = false)
    (otherFound : table.at? later = some other)
    (otherStated : other.nameStated)
    (otherName : other.name = defaultName index) :
    table.otherIndexOfName? index reference = none := by
  have isDefault := wellFormed.named index argument found unstated
  obtain ⟨first, looked, firstFound, firstName, notAfter⟩ := exists_first_of_at? wellFormed found
  rw [isDefault] at looked firstName
  have here : first.index = index := by
    cases firstStated : first.nameStated with
    | true =>
        have equal := index_eq_of_apart apart firstFound otherFound firstStated otherStated
          (firstName.trans otherName.symm)
        omega
    | false =>
        have ownName := wellFormed.named first.index first firstFound firstStated
        rw [firstName] at ownName
        exact (defaultName_injective ownName).symm
  rw [otherIndexOfName?, written]
  simp only
  rw [looked]
  simp only
  rw [if_pos here]

/-- A name is accepted for an argument that has none yet, and stays even if a type is then
refused. -/
theorem declare_of_unstated
    {table : ArgumentTable}
    {reference : Reference}
    {index : Nat}
    {name : String}
    {argument : Argument}
    (bounded : index < argumentLimit)
    (indexed : reference.index = some index)
    (written : reference.name = some name)
    (unused : table.otherIndexOfName? index reference = none)
    (found : table.at? index = some argument)
    (unstated : argument.nameStated = false) :
    ∃ named,
      (table.declare reference).1 = table.put named ∧
      named.index = argument.index ∧
      named.nameStated ∧
      named.name = name := by
  obtain ⟨named, accepted⟩ : ∃ named, withName argument reference.name = .ok named := by
    refine withName_eq_ok_of_agrees fun _ _ stated => ?_
    rw [unstated] at stated
    cases stated
  obtain ⟨refined, -, -, names, -⟩ := withName_eq_ok accepted
  obtain ⟨nameStated, sameName⟩ := names name written
  rw [declare_eq_restate indexed bounded unused found, restate, accepted]
  simp only
  split
  · exact ⟨named, rfl, refined.index, nameStated, sameName⟩
  · rename_i typed typeAccepted
    obtain ⟨typeRefined, typedName, typedStated, -⟩ := withType_eq_ok typeAccepted
    exact ⟨typed, rfl, typeRefined.index.trans refined.index, typedStated.trans nameStated,
      typedName.trans sameName⟩

/-- A placeholder that gives an argument its default name, although it has been stated for a later
one, lets the two share it. -/
theorem sharesName_of_takesDefaultName
    {references : List Reference}
    {table : ArgumentTable}
    {reference : Reference}
    (goesBack : GoesBackTo references table)
    (takes : table.TakesDefaultName reference) :
    (table.declare reference).1.SharesName := by
  have wellFormed := goesBack.wellFormed
  by_cases already : table.SharesName
  · exact already.mono (extends_declare wellFormed reference)
  · obtain ⟨index, later, argument, other, indexed, written, before, found, unstated, otherFound,
      otherStated, otherName⟩ := takes
    have elsewhere : later ≠ index := Nat.ne_of_gt before
    have unused := otherIndexOfName?_of_default wellFormed already written before found unstated
      otherFound otherStated otherName
    have bounded := goesBack.bounded index argument found
    obtain ⟨named, changed, here, stated, name⟩ :=
      declare_of_unstated bounded indexed written unused found unstated
    rw [changed]
    rw [wellFormed.placed index argument found] at here
    exact sharesName_put (by rw [here]; exact elsewhere) otherFound otherStated stated
      (otherName.trans name.symm)

/-- Two arguments share a name after some declarations just if one of these gave an argument its
default name although it had been stated for a later one. -/
theorem sharesName_declareAll_iff
    (references : List Reference) :
    (declareAll {} references).SharesName ↔
      ∃ earlier reference,
        earlier ++ [reference] <+: references ∧
        (declareAll {} earlier).TakesDefaultName reference := by
  induction references using List.reverseRecOn with
  | nil =>
      constructor
      · rintro ⟨first, _, argument, _, _, found, _⟩
        simp [declareAll, at?] at found
      · rintro ⟨earlier, reference, isInitial, _⟩
        simp at isInitial
  | append_singleton references last inductionHypothesis =>
      have goesBack := goesBackTo_declareAll references
      have shape :
          declareAll {} (references ++ [last]) = ((declareAll {} references).declare last).1 :=
        declareAll_append {} references [last]
      rw [shape]
      constructor
      · intro shares
        by_cases already : (declareAll {} references).SharesName
        · obtain ⟨earlier, reference, isInitial, takes⟩ := inductionHypothesis.mp already
          exact ⟨earlier, reference, List.prefix_concat_iff.mpr (.inr isInitial), takes⟩
        · have takes := takesDefaultName_of_declare goesBack already shares
          exact ⟨references, last, List.prefix_rfl, takes⟩
      · rintro ⟨earlier, reference, isInitial, takes⟩
        rcases List.prefix_concat_iff.mp isInitial with whole | isEarlier
        · obtain ⟨rfl, same⟩ := List.append_inj' whole rfl
          cases same
          exact sharesName_of_takesDefaultName goesBack takes
        · have already := inductionHypothesis.mpr ⟨earlier, reference, isEarlier, takes⟩
          exact already.mono (extends_declare goesBack.wellFormed last)

/-! ## Main result -/

/-- Whether an argument is resolved to its index, by the index alone and by its name alone. -/
structure IsResolved
    (table : ArgumentTable)
    (argument : Argument) :
    Prop where
  byIndex : table.resolve ⟨some argument.index, none, none⟩ = .ok argument.index
  byName : table.resolve ⟨none, some argument.name, none⟩ = .ok argument.index

/-- What a complete table is like: its arguments are numbered in order, have names of their own, and
are resolved by their indices and by their names. -/
structure IsComplete
    (table : ArgumentTable) :
    Prop where
  numbered : table.arguments.map Argument.index = List.range table.arguments.length
  distinct : (table.arguments.map Argument.name).Nodup
  resolved : ∀ argument ∈ table.arguments, table.IsResolved argument

/-- How some declarations, failed ones included, keep the arguments of a message apart: there are
not too many, each one stands at its own index, and no two share a name that has been stated for
both, unless one was given its default name although it had been stated for a later one. A table
that passes the check is complete. A declaration that fails changes nothing if types are stated only
together with names. -/
structure KeepsArgumentsApart
    (references : List Reference) :
    Prop where
  limited : (declareAll {} references).slots.length ≤ argumentLimit
  placed :
    ∀ (index : Nat) (argument : Argument),
      (declareAll {} references).slots[index]? = some (some argument) →
      argument.index = index
  shared :
    (declareAll {} references).SharesName ↔
      ∃ earlier reference,
        earlier ++ [reference] <+: references ∧
        (declareAll {} earlier).TakesDefaultName reference
  complete :
    (declareAll {} references).checkComplete = .ok () → (declareAll {} references).IsComplete
  unchanged :
    (∀ reference ∈ references, reference.TypesNamed) →
      ∀ earlier reference fault,
        earlier ++ [reference] <+: references →
        ((declareAll {} earlier).declare reference).2 = .error fault →
        ((declareAll {} earlier).declare reference).1 = declareAll {} earlier

theorem GoesBackTo.length_slots_le
    {references : List Reference}
    {table : ArgumentTable}
    (goesBack : GoesBackTo references table) :
    table.slots.length ≤ argumentLimit := by
  by_contra beyond
  obtain ⟨index, argument, notBelow, found⟩ :=
    goesBack.tight argumentLimit (Nat.lt_of_not_le beyond)
  exact Nat.not_lt.mpr notBelow (goesBack.bounded index argument found)

theorem isComplete_of_checkComplete
    {table : ArgumentTable}
    (wellFormed : table.WellFormed)
    (complete : table.checkComplete = .ok ()) :
    table.IsComplete where
  numbered := indices_of_complete wellFormed complete
  distinct := List.pairwise_map.mpr (complete_of_checkComplete complete).2
  resolved := by
    intro argument isMember
    obtain ⟨index, found⟩ := mem_arguments_iff.mp isMember
    have placed := wellFormed.placed index argument found
    constructor
    · exact resolve_of_agrees (congrArg some placed) found (by simp) (by simp)
    · obtain ⟨first, looked, firstFound, sameName, -⟩ := exists_first_of_at? wellFormed found
      have same := index_unique_of_complete complete firstFound found sameName
      rw [resolve_of_named? looked, same, placed]

/-- Declarations keep the arguments of a message apart. -/
theorem keepsArgumentsApart
    (references : List Reference) :
    KeepsArgumentsApart references where
  limited := (goesBackTo_declareAll references).length_slots_le
  placed := fun index argument slot =>
    (goesBackTo_declareAll references).wellFormed.placed index argument
      (at?_eq_some_iff.mpr slot)
  shared := sharesName_declareAll_iff references
  complete := isComplete_of_checkComplete (goesBackTo_declareAll references).wellFormed
  unchanged := by
    intro producible earlier reference fault isInitial failed
    have subset := isInitial.subset
    have typesNamed : (declareAll {} earlier).TypesNamed :=
      typesNamed_declareAll fun other isMember =>
        producible other (subset (List.mem_append_left _ isMember))
    have wellFormed := (goesBackTo_declareAll earlier).wellFormed
    exact (typesNamed.declare wellFormed (producible reference (subset (by simp)))).2 fault failed

/-- The name that has been stated for one argument is stated for an earlier one, of which it is the
default name, and is accepted. The table does not pass the check. -/
theorem sharesName_of_default_accepted :
    let stated : List Reference := [⟨some 1, some "arg0", none⟩, ⟨some 0, none, none⟩]
    let final := declareAll {} (stated ++ [⟨some 0, some "arg0", none⟩])
    ((declareAll {} stated).declare ⟨some 0, some "arg0", none⟩).2 = .ok 0 ∧
      final.SharesName ∧
      final.checkComplete = .error (.sameName 0 1 "arg0") := by
  refine ⟨by cbv, ⟨0, 1, ⟨0, "arg0", .text, true, false⟩, ⟨1, "arg0", .text, true, false⟩, ?_⟩,
    by cbv⟩
  refine ⟨by decide, by cbv, by cbv, rfl, rfl, rfl⟩

end ArgumentTable

end Phrasebook.Placeholder
