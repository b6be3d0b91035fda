import Mathlib.Data.List.Pairwise
import Phrasebook.Properties.Reader

namespace Phrasebook.Properties

/-!
# The faults of a properties file

A file is refused just if it has a faulty logical line, and then with the fault of every such line,
in the order of the lines. A fault hides no other one: a line is at fault by itself, or because an
earlier line, the first of its key, declares the same key.
-/

/-- The fault of a logical line after earlier lines. -/
inductive IsFaultAfter
    (before : List LogicalLine)
    (line : LogicalLine) :
    LineFault →
    Prop where
  | malformed
      {fault : LineFault} :
      declaration line = .error fault →
      IsFaultAfter before line fault
  | repeated
      {earlier between : List LogicalLine}
      {first : LogicalLine}
      {property other : Property} :
      declaration line = .ok property →
      before = earlier ++ first :: between →
      declaration first = .ok other →
      other.key = property.key →
      (∀ further ∈ earlier, ∀ declared, declaration further = .ok declared →
        declared.key ≠ property.key) →
      IsFaultAfter before line (.duplicateKey property.key first.number)

/-- The faults of some logical lines after earlier lines, one for each line that has one. -/
inductive ListFaults :
    List LogicalLine →
    List LogicalLine →
    List LineError →
    Prop where
  | nil
      (before : List LogicalLine) :
      ListFaults before [] []
  | sound
      {before lines : List LogicalLine}
      {line : LogicalLine}
      {errors : List LineError} :
      (∀ fault, ¬IsFaultAfter before line fault) →
      ListFaults (before ++ [line]) lines errors →
      ListFaults before (line :: lines) errors
  | faulty
      {before lines : List LogicalLine}
      {line : LogicalLine}
      {fault : LineFault}
      {errors : List LineError} :
      IsFaultAfter before line fault →
      ListFaults (before ++ [line]) lines errors →
      ListFaults before (line :: lines) (⟨line.number, fault⟩ :: errors)

/-- Whether errors are all those of a text, in the order of their lines. -/
structure AreErrorsOf
    (text : List Char)
    (errors : List LineError) :
    Prop where
  listed : ListFaults [] (logicalLines text) errors
  ordered : errors.Pairwise fun first second => first.line < second.line

/-! ## One line -/

/-- Whether a logical line by itself declares a key. -/
def declares
    (key : String)
    (line : LogicalLine) :
    Bool :=
  match declaration line with
  | .ok property => property.key == key
  | .error _ => false

theorem declares_eq_true_iff
    {key : String}
    {line : LogicalLine} :
    declares key line = true ↔
      ∃ property, declaration line = .ok property ∧ property.key = key := by
  unfold declares
  cases declaration line <;> simp

/-- The first line that declares a key. -/
theorem find?_declares_eq_some_iff
    {before : List LogicalLine}
    {key : String}
    {first : LogicalLine} :
    before.find? (declares key) = some first ↔
      ∃ earlier between other,
        before = earlier ++ first :: between ∧
        declaration first = .ok other ∧
        other.key = key ∧
        ∀ further ∈ earlier, ∀ declared, declaration further = .ok declared →
          declared.key ≠ key := by
  rw [List.find?_eq_some_iff_append, declares_eq_true_iff]
  constructor
  · rintro ⟨⟨other, declared, same⟩, earlier, between, shape, noneEarlier⟩
    refine ⟨earlier, between, other, shape, declared, same, ?_⟩
    intro further isMember owned furtherDeclared furtherSame
    have declaresKey := declares_eq_true_iff.mpr ⟨owned, furtherDeclared, furtherSame⟩
    have declaresNothing := noneEarlier further isMember
    rw [declaresKey] at declaresNothing
    cases declaresNothing
  · rintro ⟨earlier, between, other, shape, declared, same, noneEarlier⟩
    refine ⟨⟨other, declared, same⟩, earlier, between, shape, fun further isMember => ?_⟩
    rw [Bool.not_eq_true', Bool.eq_false_iff]
    intro declaresKey
    obtain ⟨owned, furtherDeclared, furtherSame⟩ := declares_eq_true_iff.mp declaresKey
    exact noneEarlier further isMember owned furtherDeclared furtherSame

theorem line_of_declaration
    {line : LogicalLine}
    {property : Property}
    (declared : declaration line = .ok property) :
    property.line = line.number := by
  unfold declaration at declared
  simp only at declared
  repeat' split at declared
  all_goals cases declared
  rfl

/-- The declarations that are kept while lines are read know the first line of each key. -/
def Remembers
    (before : List LogicalLine)
    (earlier : List Property) :
    Prop :=
  ∀ key,
    (earlier.find? (·.key == key)).map Property.line =
      (before.find? (declares key)).map LogicalLine.number

theorem Remembers.malformed
    {before : List LogicalLine}
    {earlier : List Property}
    {line : LogicalLine}
    {fault : LineFault}
    (remembers : Remembers before earlier)
    (malformed : declaration line = .error fault) :
    Remembers (before ++ [line]) earlier := by
  intro key
  have declaresNothing : declares key line = false := by
    rw [declares, malformed]
  rw [remembers key, List.find?_append, List.find?_singleton, declaresNothing]
  simp

theorem Remembers.repeated
    {before : List LogicalLine}
    {earlier : List Property}
    {line : LogicalLine}
    {property first : Property}
    (remembers : Remembers before earlier)
    (declared : declaration line = .ok property)
    (found : earlier.find? (·.key == property.key) = some first) :
    Remembers (before ++ [line]) earlier := by
  intro key
  rw [remembers key, List.find?_append, List.find?_singleton]
  by_cases same : property.key = key
  · -- The line is not the first of its key.
    have known := remembers key
    rw [← same, found] at known
    obtain ⟨firstLine, firstFound, _⟩ := Option.map_eq_some_iff.mp known.symm
    rw [← same, firstFound]
    rfl
  · have declaresOther : declares key line = false := by
      rw [declares, declared]
      exact beq_eq_false_iff_ne.mpr same
    rw [declaresOther]
    simp

theorem Remembers.fresh
    {before : List LogicalLine}
    {earlier : List Property}
    {line : LogicalLine}
    {property : Property}
    (remembers : Remembers before earlier)
    (declared : declaration line = .ok property)
    (unused : earlier.find? (·.key == property.key) = none) :
    Remembers (before ++ [line]) (property :: earlier) := by
  intro key
  rw [List.find?_append, List.find?_singleton]
  by_cases same : property.key = key
  · have known := remembers key
    rw [← same, unused] at known
    have noneBefore : before.find? (declares key) = none := by
      rw [← same]
      exact Option.map_eq_none_iff.mp known.symm
    have declaresKey : declares key line = true :=
      declares_eq_true_iff.mpr ⟨property, declared, same⟩
    rw [noneBefore, declaresKey, List.find?_cons_of_pos (by simp [same])]
    simp [line_of_declaration declared]
  · have declaresOther : declares key line = false := by
      rw [declares, declared]
      exact beq_eq_false_iff_ne.mpr same
    rw [declaresOther, List.find?_cons_of_neg (by simp [same]), remembers key]
    simp

theorem isFaultAfter_iff_of_error
    {before : List LogicalLine}
    {line : LogicalLine}
    {fault other : LineFault}
    (malformed : declaration line = .error fault) :
    IsFaultAfter before line other ↔ other = fault := by
  constructor
  · intro isFault
    cases isFault with
    | malformed otherwise =>
        rw [malformed] at otherwise
        cases otherwise
        rfl
    | repeated declared =>
        rw [malformed] at declared
        cases declared
  · rintro rfl
    exact .malformed malformed

theorem isFaultAfter_iff_of_ok
    {before : List LogicalLine}
    {line : LogicalLine}
    {property : Property}
    {fault : LineFault}
    (declared : declaration line = .ok property) :
    IsFaultAfter before line fault ↔
      ∃ first,
        before.find? (declares property.key) = some first ∧
        fault = .duplicateKey property.key first.number := by
  constructor
  · intro isFault
    cases isFault with
    | malformed malformed =>
        rw [declared] at malformed
        cases malformed
    | repeated ownDeclared shape otherDeclared same noneEarlier =>
        rw [declared] at ownDeclared
        cases ownDeclared
        exact ⟨_, find?_declares_eq_some_iff.mpr
          ⟨_, _, _, shape, otherDeclared, same, noneEarlier⟩, rfl⟩
  · rintro ⟨first, found, rfl⟩
    obtain ⟨earlier, between, other, shape, otherDeclared, same, noneEarlier⟩ :=
      find?_declares_eq_some_iff.mp found
    exact .repeated declared shape otherDeclared same noneEarlier

/-- A line is refused just with its fault. -/
theorem declarationAfter_eq_error_iff
    {before : List LogicalLine}
    {earlier : List Property}
    {line : LogicalLine}
    {error : LineError}
    (remembers : Remembers before earlier) :
    declarationAfter earlier line = .error error ↔
      ∃ fault, IsFaultAfter before line fault ∧ error = ⟨line.number, fault⟩ := by
  unfold declarationAfter
  cases declared : declaration line with
  | error fault =>
      simp [isFaultAfter_iff_of_error declared, eq_comm]
  | ok property =>
      have known := remembers property.key
      simp only [isFaultAfter_iff_of_ok declared]
      cases found : earlier.find? (·.key == property.key) with
      | some first =>
          rw [found] at known
          obtain ⟨firstLine, firstFound, firstNumber⟩ := Option.map_eq_some_iff.mp known.symm
          simp [firstFound, firstNumber, eq_comm]
      | none =>
          rw [found] at known
          simp [Option.map_eq_none_iff.mp known.symm]

theorem Remembers.of_error
    {before : List LogicalLine}
    {earlier : List Property}
    {line : LogicalLine}
    {error : LineError}
    (remembers : Remembers before earlier)
    (refused : declarationAfter earlier line = .error error) :
    Remembers (before ++ [line]) earlier := by
  unfold declarationAfter at refused
  split at refused
  · rename_i fault malformed
    exact remembers.malformed malformed
  · rename_i property declared
    split at refused
    · rename_i first found
      exact remembers.repeated declared found
    · cases refused

theorem Remembers.of_ok
    {before : List LogicalLine}
    {earlier : List Property}
    {line : LogicalLine}
    {property : Property}
    (remembers : Remembers before earlier)
    (accepted : declarationAfter earlier line = .ok property) :
    Remembers (before ++ [line]) (property :: earlier) := by
  unfold declarationAfter at accepted
  split at accepted
  · cases accepted
  · rename_i own declared
    split at accepted
    · cases accepted
    · rename_i unused
      cases accepted
      exact remembers.fresh declared unused

/-! ## All lines -/

theorem listFaults_cons_of_sound
    {before lines : List LogicalLine}
    {line : LogicalLine}
    {errors : List LineError}
    (noFault : ∀ fault, ¬IsFaultAfter before line fault) :
    ListFaults before (line :: lines) errors ↔ ListFaults (before ++ [line]) lines errors := by
  constructor
  · intro listed
    cases listed with
    | sound _ rest =>
        exact rest
    | faulty isFault =>
        exact absurd isFault (noFault _)
  · exact .sound noFault

theorem listFaults_cons_of_fault
    {before lines : List LogicalLine}
    {line : LogicalLine}
    {fault : LineFault}
    {errors : List LineError}
    (isFault : IsFaultAfter before line fault)
    (only : ∀ other, IsFaultAfter before line other → other = fault) :
    ListFaults before (line :: lines) errors ↔
      ∃ rest,
        ListFaults (before ++ [line]) lines rest ∧ errors = ⟨line.number, fault⟩ :: rest := by
  constructor
  · intro listed
    cases listed with
    | sound noFault =>
        exact absurd isFault (noFault fault)
    | faulty otherFault rest =>
        exact ⟨_, rest, by rw [only _ otherFault]⟩
  · rintro ⟨rest, listed, rfl⟩
    exact .faulty isFault listed

/-- The errors of lines are the faults of all of them. -/
theorem listFaults_iff
    {before lines : List LogicalLine}
    {earlier : List Property}
    {errors : List LineError}
    (remembers : Remembers before earlier) :
    ListFaults before lines errors ↔ (outcomesAfter earlier lines).filterMap error? = errors := by
  induction lines generalizing before earlier errors with
  | nil =>
      constructor
      · rintro ⟨⟩
        rfl
      · rintro rfl
        exact .nil before
  | cons line lines inductionHypothesis =>
      have faults (error : LineError) :
          declarationAfter earlier line = .error error ↔
            ∃ fault, IsFaultAfter before line fault ∧ error = ⟨line.number, fault⟩ :=
        declarationAfter_eq_error_iff remembers
      cases outcome : declarationAfter earlier line with
      | error error =>
          obtain ⟨fault, isFault, rfl⟩ := (faults _).mp outcome
          have only : ∀ other, IsFaultAfter before line other → other = fault := by
            intro other otherFault
            have same := outcome.symm.trans ((faults _).mpr ⟨other, otherFault, rfl⟩)
            cases same
            rfl
          have further (rest : List LineError) :
              ListFaults (before ++ [line]) lines rest ↔
                (outcomesAfter earlier lines).filterMap error? = rest :=
            inductionHypothesis (remembers.of_error outcome)
          rw [outcomesAfter, outcome, List.filterMap_cons_some (f := error?) rfl,
            listFaults_cons_of_fault isFault only]
          simp only [further, exists_eq_left']
          exact eq_comm
      | ok property =>
          have noFault : ∀ fault, ¬IsFaultAfter before line fault := by
            intro fault isFault
            have refused := (faults _).mpr ⟨fault, isFault, rfl⟩
            rw [outcome] at refused
            cases refused
          rw [outcomesAfter, outcome, List.filterMap_cons_none (f := error?) rfl,
            listFaults_cons_of_sound noFault]
          exact inductionHypothesis (remembers.of_ok outcome)

/-! ## The order of errors -/

/-- Logical lines are numbered upwards, from that of a line that is continued, if there is one. -/
theorem increasing_logicalLinesFrom
    {number : Nat}
    {continued : Option LogicalLine}
    (started : ∀ start, continued = some start → start.number < number)
    (lines : List (List Char)) :
    (logicalLinesFrom number continued lines).Pairwise
        (fun first second => first.number < second.number) ∧
      ∀ line ∈ logicalLinesFrom number continued lines,
        continued.elim number LogicalLine.number ≤ line.number := by
  induction lines generalizing number continued with
  | nil =>
      cases continued <;> simp [logicalLinesFrom]
  | cons line lines inductionHypothesis =>
      obtain ⟨freshOrdered, fresh⟩ :
          (logicalLinesFrom (number + 1) none lines).Pairwise
              (fun first second => first.number < second.number) ∧
            ∀ line ∈ logicalLinesFrom (number + 1) none lines, number + 1 ≤ line.number :=
        inductionHypothesis (by simp)
      cases continued with
      | none =>
          rw [logicalLinesFrom]
          split
          · exact ⟨freshOrdered, fun further isMember => Nat.le_of_lt (fresh further isMember)⟩
          · split
            · exact inductionHypothesis (by simp)
            · refine ⟨List.pairwise_cons.mpr ⟨fresh, freshOrdered⟩, ?_⟩
              exact List.forall_mem_cons.mpr ⟨Nat.le_refl number,
                fun further isMember => Nat.le_of_lt (fresh further isMember)⟩
      | some start =>
          have before := started start rfl
          rw [logicalLinesFrom]
          split
          · exact inductionHypothesis (by simp; omega)
          · have after :
                ∀ further ∈ logicalLinesFrom (number + 1) none lines,
                  start.number < further.number :=
              fun further isMember => Nat.lt_of_lt_of_le (by omega) (fresh further isMember)
            refine ⟨List.pairwise_cons.mpr ⟨after, freshOrdered⟩, ?_⟩
            exact List.forall_mem_cons.mpr ⟨Nat.le_refl start.number,
              fun further isMember => Nat.le_of_lt (after further isMember)⟩

theorem ListFaults.sublist
    {before lines : List LogicalLine}
    {errors : List LineError}
    (listed : ListFaults before lines errors) :
    (errors.map LineError.line).Sublist (lines.map LogicalLine.number) := by
  induction listed with
  | nil before =>
      exact .slnil
  | sound _ _ inductionHypothesis =>
      exact .cons _ inductionHypothesis
  | faulty _ _ inductionHypothesis =>
      exact .cons_cons _ inductionHypothesis

theorem areErrorsOf_iff
    {text : List Char}
    {errors : List LineError} :
    AreErrorsOf text errors ↔ (outcomes text).filterMap error? = errors := by
  have faults :
      ListFaults [] (logicalLines text) errors ↔ (outcomes text).filterMap error? = errors :=
    listFaults_iff fun _ => rfl
  refine ⟨fun areErrors => faults.mp areErrors.listed, fun same => ?_⟩
  have listed := faults.mpr same
  have numbered :
      (logicalLines text).Pairwise fun first second => first.number < second.number :=
    (increasing_logicalLinesFrom (by simp) (Text.physicalLines text)).1
  refine ⟨listed, List.pairwise_map.mp ?_⟩
  exact (List.pairwise_map.mpr numbered).sublist listed.sublist

/-- A text is refused just if it has faults, and then with all of them. -/
theorem read_eq_error_iff
    {text : List Char}
    {errors : List LineError} :
    read text = .error errors ↔ AreErrorsOf text errors ∧ errors ≠ [] := by
  rw [areErrorsOf_iff, read]
  cases found : (outcomes text).filterMap error? with
  | nil =>
      simp only [reduceCtorEq, false_iff, not_and, not_not]
      exact Eq.symm
  | cons first further =>
      constructor
      · rintro ⟨⟩
        exact ⟨rfl, List.cons_ne_nil first further⟩
      · rintro ⟨rfl, _⟩
        rfl

end Phrasebook.Properties
