import Mathlib.Data.List.Forall2
import Mathlib.Data.List.Nodup
import Mathlib.Data.String.Basic
import Phrasebook.Configuration
import Phrasebook.Proofs.Result

namespace Phrasebook.Configuration

/-!
# Selected source sets

A configuration declares its source sets in the order of their names. A selection of distinct names
succeeds just if all of them are declared, and a name that is not declared is told from the others
whatever was taken before it. The error for it lists what is left at that point: a declared source
set is missing from the list just if its name was selected before the name at fault.
-/

/-! ## The order of names -/

/-- Whether source sets are in the order of their names, each of which is declared once. -/
def AreInNameOrder
    (sourceSets : List NamedSourceSet) :
    Prop :=
  (names sourceSets).Pairwise (· < ·)

theorem mem_names_insert
    {declared : NamedSourceSet}
    {sourceSets : List NamedSourceSet}
    {name : String} :
    name ∈ names (insert declared sourceSets) ↔ name = declared.name ∨ name ∈ names sourceSets := by
  induction sourceSets with
  | nil =>
      simp [insert, names]
  | cons first others inductionHypothesis =>
      simp only [names] at inductionHypothesis
      rw [insert]
      split
      · simp [names]
      · split
        · rename_i same
          simp [names, same]
        · simp only [names, List.map_cons, List.mem_cons, inductionHypothesis]
          exact or_left_comm

theorem AreInNameOrder.insert
    {sourceSets : List NamedSourceSet}
    (ordered : AreInNameOrder sourceSets)
    (declared : NamedSourceSet) :
    AreInNameOrder (insert declared sourceSets) := by
  induction sourceSets with
  | nil =>
      exact List.pairwise_singleton _ _
  | cons first others inductionHypothesis =>
      obtain ⟨afterFirst, othersOrdered⟩ := List.pairwise_cons.mp ordered
      rw [Configuration.insert]
      split
      · rename_i before
        refine List.pairwise_cons.mpr ⟨List.forall_mem_cons.mpr ⟨before, ?_⟩, ordered⟩
        exact fun name isMember => before.trans (afterFirst name isMember)
      · split
        · rename_i same
          exact List.pairwise_cons.mpr ⟨same ▸ afterFirst, othersOrdered⟩
        · rename_i notBefore differs
          have after : first.name < declared.name :=
            lt_of_le_of_ne (not_lt.mp notBefore) (Ne.symm differs)
          refine List.pairwise_cons.mpr ⟨fun name isMember => ?_, inductionHypothesis othersOrdered⟩
          rcases mem_names_insert.mp isMember with rfl | further
          · exact after
          · exact afterFirst name further

theorem AreInNameOrder.decodeEntries
    {conventions : Document.Conventions}
    {entries : List (String × Document)}
    {declared sourceSets : List NamedSourceSet}
    (ordered : AreInNameOrder declared)
    (decoded : decodeEntries conventions declared entries = .ok sourceSets) :
    AreInNameOrder sourceSets := by
  induction entries generalizing declared with
  | nil =>
      cases decoded
      exact ordered
  | cons entry entries inductionHypothesis =>
      rw [Configuration.decodeEntries] at decoded
      obtain ⟨sourceSet, _, further⟩ := bind_eq_ok decoded
      exact inductionHypothesis (ordered.insert _) further

/-- Every configuration that is read declares its source sets in the order of their names. -/
theorem areInNameOrder_of_read
    {format : ConfigurationFormat}
    {source : List Char}
    {configuration : Configuration}
    (readAs : read format source = .ok configuration) :
    AreInNameOrder configuration.sourceSets := by
  unfold read at readAs
  split at readAs
  · cases readAs
  · obtain ⟨entries, _, further⟩ := bind_eq_ok readAs
    obtain ⟨sourceSets, decoded, same⟩ := bind_eq_ok further
    cases same
    have ordered : AreInNameOrder [] := List.Pairwise.nil
    exact ordered.decodeEntries decoded

/-! ## What is left to take -/

/-- What is left of source sets when those of some names were taken. -/
def remaining
    (taken : List String)
    (sourceSets : List NamedSourceSet) :
    List NamedSourceSet :=
  sourceSets.filter (·.name ∉ taken)

theorem remaining_nil
    (sourceSets : List NamedSourceSet) :
    remaining [] sourceSets = sourceSets := by
  simp [remaining]

theorem names_remaining
    (taken : List String)
    (sourceSets : List NamedSourceSet) :
    names (remaining taken sourceSets) = (names sourceSets).filter (· ∉ taken) := by
  rw [names, remaining, names, List.filter_map]
  rfl

theorem filter_remaining
    (taken : List String)
    (name : String)
    (sourceSets : List NamedSourceSet) :
    (remaining taken sourceSets).filter (·.name ≠ name) =
      remaining (taken ++ [name]) sourceSets := by
  rw [remaining, List.filter_filter, remaining]
  congr 1
  funext declared
  simp [and_comm]

/-- A declared source set that was not taken yet is found by its name. -/
theorem exists_find?_remaining
    {taken : List String}
    {sourceSets : List NamedSourceSet}
    {name : String}
    (declared : name ∈ names sourceSets)
    (untaken : name ∉ taken) :
    ∃ found,
      (remaining taken sourceSets).find? (·.name = name) = some found ∧
        found ∈ sourceSets ∧ found.name = name := by
  obtain ⟨sourceSet, isDeclared, rfl⟩ := List.mem_map.mp declared
  have isLeft : sourceSet ∈ remaining taken sourceSets :=
    List.mem_filter.mpr ⟨isDeclared, by simpa using untaken⟩
  cases found : (remaining taken sourceSets).find? (·.name = sourceSet.name) with
  | none =>
      have absent := List.find?_eq_none.mp found sourceSet isLeft
      simp at absent
  | some first =>
      have isMember := List.mem_of_find?_eq_some found
      have same := List.find?_some found
      exact ⟨first, rfl, (List.mem_filter.mp isMember).1, of_decide_eq_true same⟩

/-- Whether source sets are those that are declared under some names, in the order of the names. -/
def AreDeclaredAs
    (sourceSets : List NamedSourceSet)
    (wanted : List String)
    (selected : List NamedSourceSet) :
    Prop :=
  List.Forall₂ (fun name declared => declared ∈ sourceSets ∧ declared.name = name) wanted selected

/-- Declared names are taken whatever was taken before, and the names after them are taken from what
they leave. -/
theorem take_remaining_append
    {taken before : List String}
    {sourceSets : List NamedSourceSet}
    (distinct : (taken ++ before).Nodup)
    (declared : ∀ name ∈ before, name ∈ names sourceSets) :
    ∃ selected,
      AreDeclaredAs sourceSets before selected ∧
        ∀ after,
          take (remaining taken sourceSets) (before ++ after) =
            (take (remaining (taken ++ before) sourceSets) after).map (selected ++ ·) := by
  induction before generalizing taken with
  | nil =>
      refine ⟨[], .nil, fun after => ?_⟩
      rw [List.nil_append, List.append_nil]
      cases take (remaining taken sourceSets) after <;> rfl
  | cons name before inductionHypothesis =>
      obtain ⟨nameDeclared, furtherDeclared⟩ := List.forall_mem_cons.mp declared
      have untaken : name ∉ taken := fun isTaken =>
        (List.nodup_append.mp distinct).2.2 name isTaken name List.mem_cons_self rfl
      obtain ⟨found, isFound, isDeclared, same⟩ := exists_find?_remaining nameDeclared untaken
      have furtherDistinct : ((taken ++ [name]) ++ before).Nodup := by simpa using distinct
      obtain ⟨selected, areDeclared, further⟩ :=
        inductionHypothesis furtherDistinct furtherDeclared
      refine ⟨found :: selected, .cons ⟨isDeclared, same⟩ areDeclared, fun after => ?_⟩
      rw [List.cons_append, take, isFound]
      simp only [filter_remaining, further, List.append_assoc, List.singleton_append]
      cases take (remaining (taken ++ name :: before) sourceSets) after <;> rfl

/-- Distinct names that are declared are taken. -/
theorem exists_take
    {sourceSets : List NamedSourceSet}
    {wanted : List String}
    (distinct : wanted.Nodup)
    (declared : ∀ name ∈ wanted, name ∈ names sourceSets) :
    ∃ selected,
      take sourceSets wanted = .ok selected ∧ AreDeclaredAs sourceSets wanted selected := by
  have untouched : ([] ++ wanted).Nodup := distinct
  obtain ⟨selected, areDeclared, taken⟩ := take_remaining_append untouched declared
  refine ⟨selected, ?_, areDeclared⟩
  have whole := taken []
  rw [remaining_nil, List.append_nil, take] at whole
  rw [whole]
  simp [Except.map]

/-- The first name that is not declared is at fault, and what was not taken before it is listed. -/
theorem take_eq_error
    {sourceSets : List NamedSourceSet}
    {before after : List String}
    {name : String}
    (distinct : before.Nodup)
    (declared : ∀ earlier ∈ before, earlier ∈ names sourceSets)
    (undeclared : name ∉ names sourceSets) :
    take sourceSets (before ++ name :: after) =
      .error (.unknownSourceSet name ((names sourceSets).filter (· ∉ before))) := by
  have untouched : ([] ++ before).Nodup := distinct
  obtain ⟨selected, _, taken⟩ := take_remaining_append untouched declared
  have absent : (remaining before sourceSets).find? (·.name = name) = none := by
    refine List.find?_eq_none.mpr fun sourceSet isLeft same => undeclared ?_
    exact List.mem_map.mpr ⟨sourceSet, (List.mem_filter.mp isLeft).1, of_decide_eq_true same⟩
  have whole := taken (name :: after)
  rw [remaining_nil, List.nil_append, take, absent] at whole
  rw [whole, ← names_remaining]
  rfl

/-- Names of which one is not declared have a first such name. -/
theorem exists_first_undeclared
    {sourceSets : List NamedSourceSet}
    {wanted : List String}
    (undeclared : ¬ ∀ name ∈ wanted, name ∈ names sourceSets) :
    ∃ before name after,
      wanted = before ++ name :: after ∧
        (∀ earlier ∈ before, earlier ∈ names sourceSets) ∧
        name ∉ names sourceSets := by
  induction wanted with
  | nil =>
      exact absurd (List.forall_mem_nil _) undeclared
  | cons first wanted inductionHypothesis =>
      by_cases declared : first ∈ names sourceSets
      · have further : ¬ ∀ name ∈ wanted, name ∈ names sourceSets := fun all =>
          undeclared (List.forall_mem_cons.mpr ⟨declared, all⟩)
        obtain ⟨before, name, after, rfl, beforeDeclared, absent⟩ := inductionHypothesis further
        exact ⟨first :: before, name, after, rfl,
          List.forall_mem_cons.mpr ⟨declared, beforeDeclared⟩, absent⟩
      · exact ⟨[], first, wanted, rfl, List.forall_mem_nil _, declared⟩

/-! ## Selections -/

section

variable
  {configuration : Configuration}
  {wanted : List String}

theorem select_of_vacant
    (vacant : configuration.sourceSets = []) :
    configuration.select wanted = .error .noSourceSets := by
  rw [select, if_pos (by rw [vacant]; rfl)]

theorem select_nil
    (inhabited : configuration.sourceSets ≠ []) :
    configuration.select [] = .ok configuration.sourceSets := by
  rw [select, if_neg (by simpa using inhabited)]
  rfl

theorem select_of_ne_nil
    (inhabited : configuration.sourceSets ≠ [])
    (notEmpty : wanted ≠ []) :
    configuration.select wanted = take configuration.sourceSets wanted := by
  rw [select, if_neg (by simpa using inhabited), if_neg (by simpa using notEmpty)]

theorem select_eq_error
    {before after : List String}
    {name : String}
    (inhabited : configuration.sourceSets ≠ [])
    (distinct : before.Nodup)
    (declared : ∀ earlier ∈ before, earlier ∈ names configuration.sourceSets)
    (undeclared : name ∉ names configuration.sourceSets) :
    configuration.select (before ++ name :: after) =
      .error (.unknownSourceSet name ((names configuration.sourceSets).filter (· ∉ before))) := by
  rw [select_of_ne_nil inhabited (by simp)]
  exact take_eq_error distinct declared undeclared

/-- A selection of distinct names succeeds just if there is something to select and all of the names
are declared. -/
theorem exists_select_iff
    (distinct : wanted.Nodup) :
    (∃ selected, configuration.select wanted = .ok selected) ↔
      configuration.sourceSets ≠ [] ∧ ∀ name ∈ wanted, name ∈ names configuration.sourceSets := by
  constructor
  · rintro ⟨selected, succeeded⟩
    have inhabited : configuration.sourceSets ≠ [] := by
      intro vacant
      rw [select_of_vacant vacant] at succeeded
      cases succeeded
    refine ⟨inhabited, ?_⟩
    by_contra undeclared
    obtain ⟨before, name, after, rfl, declared, absent⟩ := exists_first_undeclared undeclared
    rw [select_eq_error inhabited distinct.of_append_left declared absent] at succeeded
    cases succeeded
  · rintro ⟨inhabited, declared⟩
    by_cases isEmpty : wanted = []
    · rw [isEmpty]
      exact ⟨_, select_nil inhabited⟩
    · obtain ⟨selected, taken, _⟩ := exists_take distinct declared
      exact ⟨selected, by rw [select_of_ne_nil inhabited isEmpty, taken]⟩

/-- What was selected are the source sets declared under the names. -/
theorem areDeclaredAs_of_select
    {selected : List NamedSourceSet}
    (distinct : wanted.Nodup)
    (notEmpty : wanted ≠ [])
    (succeeded : configuration.select wanted = .ok selected) :
    AreDeclaredAs configuration.sourceSets wanted selected := by
  obtain ⟨inhabited, declared⟩ := (exists_select_iff distinct).mp ⟨selected, succeeded⟩
  obtain ⟨found, taken, areDeclared⟩ := exists_take distinct declared
  rw [select_of_ne_nil inhabited notEmpty, taken] at succeeded
  cases succeeded
  exact areDeclared

end

/-- Declared names leave nothing out of a list of all of them just if there are none. -/
theorem filter_notMem_eq_iff
    {sourceSets : List NamedSourceSet}
    {before : List String}
    (declared : ∀ earlier ∈ before, earlier ∈ names sourceSets) :
    (names sourceSets).filter (· ∉ before) = names sourceSets ↔ before = [] := by
  rw [List.filter_eq_self]
  constructor
  · intro untouched
    refine List.eq_nil_iff_forall_not_mem.mpr fun earlier isEarlier => ?_
    exact of_decide_eq_true (untouched earlier (declared earlier isEarlier)) isEarlier
  · rintro rfl
    simp

/-- What a selection comes to: it succeeds just for declared names, then with what they are declared
as, and otherwise the first undeclared name is at fault. The names listed beside it are the declared
ones that were not selected before it, which are all of them just if it comes first. -/
structure SelectsByName
    (configuration : Configuration)
    (wanted : List String) :
    Prop where
  succeeds :
    (∃ selected, configuration.select wanted = .ok selected) ↔
      configuration.sourceSets ≠ [] ∧ ∀ name ∈ wanted, name ∈ names configuration.sourceSets
  all :
    wanted = [] →
      ∀ selected, configuration.select wanted = .ok selected →
        selected = configuration.sourceSets ∧ (names selected).Pairwise (· < ·)
  paired :
    wanted ≠ [] →
      ∀ selected, configuration.select wanted = .ok selected →
        AreDeclaredAs configuration.sourceSets wanted selected
  vacant :
    configuration.sourceSets = [] → configuration.select wanted = .error .noSourceSets
  refused :
    configuration.sourceSets ≠ [] →
      ∀ before name after,
        wanted = before ++ name :: after →
        (∀ earlier ∈ before, earlier ∈ names configuration.sourceSets) →
        name ∉ names configuration.sourceSets →
          ∃ listed,
            configuration.select wanted = .error (.unknownSourceSet name listed) ∧
              listed = (names configuration.sourceSets).filter (· ∉ before) ∧
              (listed = names configuration.sourceSets ↔ before = [])

/-- A selection of distinct names is made by name. -/
theorem selectsByName_of_nodup
    {configuration : Configuration}
    {wanted : List String}
    (ordered : AreInNameOrder configuration.sourceSets)
    (distinct : wanted.Nodup) :
    SelectsByName configuration wanted := by
  refine ⟨exists_select_iff distinct, ?_, ?_, select_of_vacant, ?_⟩
  · rintro rfl selected succeeded
    have inhabited := ((exists_select_iff distinct).mp ⟨selected, succeeded⟩).1
    rw [select_nil inhabited] at succeeded
    cases succeeded
    exact ⟨rfl, ordered⟩
  · intro notEmpty selected
    exact areDeclaredAs_of_select distinct notEmpty
  · rintro inhabited before name after rfl declared undeclared
    exact ⟨_, select_eq_error inhabited distinct.of_append_left declared undeclared, rfl,
      filter_notMem_eq_iff declared⟩

/-- Two source sets in an order that is not that of their names. -/
theorem selectsByName_of_nodup_reversed :
    let sourceSet : SourceSet := { targetName := "Messages", locales := [] }
    let configuration : Configuration := ⟨[⟨"admin", sourceSet⟩, ⟨"main", sourceSet⟩]⟩
    AreInNameOrder configuration.sourceSets ∧
      ["main", "admin"].Nodup ∧
      SelectsByName configuration ["main", "admin"] := by
  intro sourceSet configuration
  have ordered : AreInNameOrder configuration.sourceSets := by
    rw [AreInNameOrder]
    decide
  exact ⟨ordered, by decide, selectsByName_of_nodup ordered (by decide)⟩

/-- A source set that was selected before the name at fault is not listed, although it is
declared. -/
theorem selected_source_set_unlisted :
    let sourceSet : SourceSet := { targetName := "Messages", locales := [] }
    let configuration : Configuration := ⟨[⟨"admin", sourceSet⟩, ⟨"main", sourceSet⟩]⟩
    AreInNameOrder configuration.sourceSets ∧
      ["main", "nope"].Nodup ∧
      names configuration.sourceSets = ["admin", "main"] ∧
      ∃ fault,
        configuration.select ["main", "nope"] = .error fault ∧
          fault = .unknownSourceSet "nope" ["admin"] ∧
          fault ≠ .unknownSourceSet "nope" (names configuration.sourceSets) ∧
          fault.message = "Unknown source set 'nope'. Declared source sets: admin" := by
  intro sourceSet configuration
  have ordered : AreInNameOrder configuration.sourceSets := by
    rw [AreInNameOrder]
    decide
  exact ⟨ordered, by decide, rfl, _, rfl, rfl, by decide, by decide⟩

end Phrasebook.Configuration
