import Phrasebook.Proofs.Properties.Declarations
import Phrasebook.Proofs.Properties.Faults

namespace Phrasebook.Properties

/-!
# What becomes of each line

Every physical line is skipped or belongs to just one logical line, and every logical line yields
one declaration or one error. A file is refused just if there is an error, and then with all of
them; the declarations of any other file can be found by their keys.
-/

/-! ## Grouping physical lines -/

/-- What a logical line reads after some text of it, if it takes up the first of the physical lines
that follow. A continuation that is due at the very end of a file joins nothing. -/
inductive Joins :
    (text : List Char) →
    (taken rest : List (List Char)) →
    (joined : List Char) →
    Prop where
  | complete
      {text : List Char}
      (rest : List (List Char)) :
      isContinued text = false →
      Joins text [] rest text
  | unfinished
      {text : List Char} :
      isContinued text = true →
      Joins text [] [] text.dropLast
  | next
      {text line joined : List Char}
      {taken rest : List (List Char)} :
      isContinued text = true →
      Joins (text.dropLast ++ dropBlanks line) taken rest joined →
      Joins text (line :: taken) rest joined

/-- Physical lines, the first of which has a number, and the logical lines that they make up. -/
inductive MakeUp :
    Nat →
    List (List Char) →
    List LogicalLine →
    Prop where
  | nil
      (number : Nat) :
      MakeUp number [] []
  | skipped
      {number : Nat}
      {line : List Char}
      {lines : List (List Char)}
      {found : List LogicalLine} :
      isSkipped (dropBlanks line) = true →
      MakeUp (number + 1) lines found →
      MakeUp number (line :: lines) found
  | joined
      {number : Nat}
      {line text : List Char}
      {taken rest : List (List Char)}
      {found : List LogicalLine} :
      isSkipped (dropBlanks line) = false →
      Joins (dropBlanks line) taken rest text →
      MakeUp (number + 1 + taken.length) rest found →
      MakeUp number (line :: (taken ++ rest)) (⟨number, text⟩ :: found)

/-- How a logical line goes on whose continuation is due. -/
theorem exists_joins
    (number start : Nat)
    {text : List Char}
    (lines : List (List Char))
    (continued : isContinued text = true) :
    ∃ taken rest joined,
      lines = taken ++ rest ∧
        Joins text taken rest joined ∧
        logicalLinesFrom number (some ⟨start, text.dropLast⟩) lines =
          ⟨start, joined⟩ :: logicalLinesFrom (number + taken.length) none rest := by
  induction lines generalizing number text with
  | nil =>
      exact ⟨[], [], text.dropLast, rfl, .unfinished continued, rfl⟩
  | cons line lines inductionHypothesis =>
      rw [logicalLinesFrom]
      by_cases goesOn : isContinued (text.dropLast ++ dropBlanks line) = true
      · obtain ⟨taken, rest, joined, shape, joins, found⟩ :=
          inductionHypothesis (number + 1) goesOn
        refine ⟨line :: taken, rest, joined, by rw [shape, List.cons_append],
          .next continued joins, ?_⟩
        rw [if_pos goesOn, found, List.length_cons, Nat.add_right_comm, Nat.add_assoc]
      · refine ⟨[line], lines, text.dropLast ++ dropBlanks line, rfl,
          .next continued (.complete lines (Bool.eq_false_iff.mpr goesOn)), ?_⟩
        rw [if_neg goesOn]
        rfl

theorem makeUp_logicalLinesFrom
    (number : Nat)
    (lines : List (List Char)) :
    MakeUp number lines (logicalLinesFrom number none lines) := by
  -- A logical line may take up several physical lines, so the induction is on how many are left.
  induction count : lines.length using Nat.strongRecOn generalizing number lines with
  | ind count inductionHypothesis =>
      cases lines with
      | nil =>
          exact .nil number
      | cons line lines =>
          rw [List.length_cons] at count
          rw [logicalLinesFrom]
          by_cases skipped : isSkipped (dropBlanks line) = true
          · rw [if_pos skipped]
            exact .skipped skipped (inductionHypothesis _ (by omega) _ _ rfl)
          · have starts := Bool.eq_false_iff.mpr skipped
            rw [if_neg skipped]
            by_cases goesOn : isContinued (dropBlanks line) = true
            · obtain ⟨taken, rest, joined, rfl, joins, found⟩ :=
                exists_joins (number + 1) number lines goesOn
              rw [if_pos goesOn, found]
              rw [List.length_append] at count
              exact .joined starts joins (inductionHypothesis _ (by omega) _ _ rfl)
            · rw [if_neg goesOn]
              have alone : Joins (dropBlanks line) [] lines (dropBlanks line) :=
                .complete lines (Bool.eq_false_iff.mpr goesOn)
              exact .joined starts alone (inductionHypothesis _ (by omega) _ _ rfl)

/-- Whether a logical line starts on the physical line of a number, where lines are counted from
one. -/
def StartsOn
    (lines : List (List Char))
    (number : Nat) :
    Prop :=
  ∃ index line,
    number = index + 1 ∧
      lines[index]? = some line ∧
      isSkipped (dropBlanks line) = false

theorem StartsOn.append
    (before : List (List Char))
    {lines : List (List Char)}
    {number : Nat}
    (startsOn : StartsOn lines number) :
    StartsOn (before ++ lines) (before.length + number) := by
  obtain ⟨index, line, rfl, isLine, starts⟩ := startsOn
  refine ⟨before.length + index, line, Nat.add_assoc .. |>.symm, ?_, starts⟩
  rw [List.getElem?_append_right (Nat.le_add_right ..), Nat.add_sub_cancel_left, isLine]

theorem MakeUp.startsOn
    {number : Nat}
    {lines : List (List Char)}
    {found : List LogicalLine}
    (makeUp : MakeUp number lines found)
    {line : LogicalLine}
    (isMember : line ∈ found) :
    ∃ place, StartsOn lines place ∧ line.number + 1 = number + place := by
  induction makeUp with
  | nil number =>
      cases isMember
  | @skipped number first lines found _ _ inductionHypothesis =>
      obtain ⟨place, startsOn, same⟩ := inductionHypothesis isMember
      exact ⟨_, startsOn.append [first], by rw [same, List.length_singleton, Nat.add_assoc]⟩
  | @joined number first text taken rest found starts _ _ inductionHypothesis =>
      rcases List.mem_cons.mp isMember with rfl | later
      · exact ⟨1, ⟨0, first, rfl, rfl, starts⟩, rfl⟩
      · obtain ⟨place, startsOn, same⟩ := inductionHypothesis later
        refine ⟨_, startsOn.append (first :: taken), ?_⟩
        rw [same, List.length_cons]
        omega

/-! ## What a line yields -/

/-- The number of the line that an outcome is about. -/
def lineOf :
    Except LineError Property →
    Nat
  | .ok property => property.line
  | .error error => error.line

/-- What a logical line yields after earlier lines: its declaration, or its fault if it has one. -/
inductive Yields
    (before : List LogicalLine)
    (line : LogicalLine) :
    Except LineError Property →
    Prop where
  | declaration
      {property : Property} :
      declaration line = .ok property →
      (∀ fault, ¬IsFaultAfter before line fault) →
      Yields before line (.ok property)
  | error
      {fault : LineFault} :
      IsFaultAfter before line fault →
      Yields before line (.error ⟨line.number, fault⟩)

/-- What each of some logical lines yields after earlier lines. -/
inductive YieldEach :
    (before lines : List LogicalLine) →
    List (Except LineError Property) →
    Prop where
  | nil
      (before : List LogicalLine) :
      YieldEach before [] []
  | cons
      {before lines : List LogicalLine}
      {line : LogicalLine}
      {outcome : Except LineError Property}
      {outcomes : List (Except LineError Property)} :
      Yields before line outcome →
      YieldEach (before ++ [line]) lines outcomes →
      YieldEach before (line :: lines) (outcome :: outcomes)

theorem Yields.line
    {before : List LogicalLine}
    {line : LogicalLine}
    {outcome : Except LineError Property}
    (yields : Yields before line outcome) :
    lineOf outcome = line.number := by
  cases yields with
  | declaration declared _ =>
      exact line_of_declaration declared
  | error _ =>
      rfl

theorem YieldEach.lines
    {before lines : List LogicalLine}
    {outcomes : List (Except LineError Property)}
    (yieldEach : YieldEach before lines outcomes) :
    outcomes.map lineOf = lines.map LogicalLine.number := by
  induction yieldEach with
  | nil before =>
      rfl
  | cons yields _ inductionHypothesis =>
      rw [List.map_cons, List.map_cons, yields.line, inductionHypothesis]

/-- Reading a line finds just what it yields. -/
theorem yields_iff
    {before : List LogicalLine}
    {earlier : List Property}
    {line : LogicalLine}
    {outcome : Except LineError Property}
    (remembers : Remembers before earlier) :
    Yields before line outcome ↔ declarationAfter earlier line = outcome := by
  have faults (error : LineError) :
      declarationAfter earlier line = .error error ↔
        ∃ fault, IsFaultAfter before line fault ∧ error = ⟨line.number, fault⟩ :=
    declarationAfter_eq_error_iff remembers
  constructor
  · intro yields
    cases yields with
    | error isFault =>
        exact (faults _).mpr ⟨_, isFault, rfl⟩
    | declaration declared noFault =>
        cases found : declarationAfter earlier line with
        | error error =>
            obtain ⟨fault, isFault, _⟩ := (faults error).mp found
            exact absurd isFault (noFault fault)
        | ok property =>
            have own := (declarationAfter_eq_ok found).1
            rw [declared] at own
            cases own
            rfl
  · rintro rfl
    cases found : declarationAfter earlier line with
    | error error =>
        obtain ⟨fault, isFault, rfl⟩ := (faults error).mp found
        exact .error isFault
    | ok property =>
        refine .declaration (declarationAfter_eq_ok found).1 fun fault isFault => ?_
        have refused := (faults _).mpr ⟨fault, isFault, rfl⟩
        rw [found] at refused
        cases refused

/-- Reading lines finds just what each of them yields. -/
theorem yieldEach_iff
    {before lines : List LogicalLine}
    {earlier : List Property}
    {outcomes : List (Except LineError Property)}
    (remembers : Remembers before earlier) :
    YieldEach before lines outcomes ↔ outcomesAfter earlier lines = outcomes := by
  induction lines generalizing before earlier outcomes with
  | nil =>
      constructor
      · rintro ⟨⟩
        rfl
      · rintro rfl
        exact .nil before
  | cons line lines inductionHypothesis =>
      have own (outcome : Except LineError Property) :
          Yields before line outcome ↔ declarationAfter earlier line = outcome :=
        yields_iff remembers
      -- What is remembered of the line depends on what it yields.
      obtain ⟨later, shape, further⟩ :
          ∃ later,
            outcomesAfter earlier (line :: lines) =
                declarationAfter earlier line :: outcomesAfter later lines ∧
              ∀ rest,
                YieldEach (before ++ [line]) lines rest ↔ outcomesAfter later lines = rest := by
        rw [outcomesAfter]
        cases outcome : declarationAfter earlier line with
        | error error =>
            exact ⟨earlier, rfl, fun rest => inductionHypothesis (remembers.of_error outcome)⟩
        | ok property =>
            exact ⟨property :: earlier, rfl,
              fun rest => inductionHypothesis (remembers.of_ok outcome)⟩
      rw [shape]
      constructor
      · intro yieldEach
        cases yieldEach with
        | cons yields rest =>
            rw [(own _).mp yields, (further _).mp rest]
      · rintro rfl
        exact .cons ((own _).mpr rfl) ((further _).mpr rfl)

/-! ## The account of a file -/

/-- Outcomes without an error are declarations throughout. -/
theorem outcomes_eq_map_ok_iff
    {outcomes : List (Except LineError Property)}
    {properties : List Property} :
    outcomes = properties.map .ok ↔
      outcomes.filterMap error? = [] ∧ outcomes.filterMap declared? = properties := by
  constructor
  · rintro rfl
    constructor
    · exact List.filterMap_eq_nil_iff.mpr (by simp [error?])
    · simp [List.filterMap_map, declared?, Function.comp_def]
  · rintro ⟨noErrors, rfl⟩
    induction outcomes with
    | nil =>
        rfl
    | cons outcome outcomes inductionHypothesis =>
        cases outcome with
        | error error =>
            rw [List.filterMap_cons_some (f := error?) rfl] at noErrors
            cases noErrors
        | ok property =>
            rw [List.filterMap_cons_none (f := error?) rfl] at noErrors
            rw [List.filterMap_cons_some (f := declared?) rfl, List.map_cons,
              ← inductionHypothesis noErrors]

theorem read_eq_ok_iff
    {text : List Char}
    {properties : List Property} :
    read text = .ok properties ↔ outcomes text = properties.map .ok := by
  rw [outcomes_eq_map_ok_iff, read]
  cases (outcomes text).filterMap error? <;> simp

theorem get?_eq_some_iff
    {properties : List Property}
    {key : String}
    {property : Property}
    (declared : WellDeclared properties) :
    get? properties key = some property ↔ property ∈ properties ∧ property.key = key := by
  constructor
  · intro found
    rw [get?] at found
    have same := List.find?_some found
    exact ⟨List.mem_of_find?_eq_some found, beq_iff_eq.mp same⟩
  · rintro ⟨isMember, rfl⟩
    exact get?_eq_some_of_distinct declared.distinct isMember

/-- The account that reading a text gives of its lines. -/
structure AccountsForLines
    (text : List Char) :
    Prop where
  madeUp : MakeUp 1 (Text.physicalLines text) (logicalLines text)
  yielded : ∀ found, YieldEach [] (logicalLines text) found ↔ found = outcomes text
  numbered : (outcomes text).map lineOf = (logicalLines text).map LogicalLine.number
  increasing : ((outcomes text).map lineOf).Pairwise (· < ·)
  physical : ∀ number ∈ (outcomes text).map lineOf, StartsOn (Text.physicalLines text) number
  refused :
    ∀ errors, read text = .error errors ↔
      (outcomes text).filterMap error? = errors ∧ errors ≠ []
  accepted : ∀ properties, read text = .ok properties ↔ outcomes text = properties.map .ok
  declared : ∀ properties, read text = .ok properties → WellDeclared properties
  foundByKey :
    ∀ properties, read text = .ok properties →
      ∀ key property,
        get? properties key = some property ↔ property ∈ properties ∧ property.key = key

/-- Reading accounts for every line of a text. -/
theorem accountsForLines
    (text : List Char) :
    AccountsForLines text := by
  have makeUp : MakeUp 1 (Text.physicalLines text) (logicalLines text) :=
    makeUp_logicalLinesFrom 1 (Text.physicalLines text)
  have yielded (found : List (Except LineError Property)) :
      YieldEach [] (logicalLines text) found ↔ found = outcomes text :=
    (yieldEach_iff fun _ => rfl).trans eq_comm
  have numbered : (outcomes text).map lineOf = (logicalLines text).map LogicalLine.number :=
    ((yielded _).mpr rfl).lines
  have increasing :
      (logicalLines text).Pairwise fun first second => first.number < second.number :=
    (increasing_logicalLinesFrom (by simp) (Text.physicalLines text)).1
  refine ⟨makeUp, yielded, numbered, ?_, ?_, ?_, fun _ => read_eq_ok_iff,
    fun _ => wellDeclared_of_read, ?_⟩
  · rw [numbered]
    exact List.pairwise_map.mpr increasing
  · rw [numbered]
    intro number isMember
    obtain ⟨line, isLine, rfl⟩ := List.mem_map.mp isMember
    obtain ⟨place, startsOn, same⟩ := makeUp.startsOn isLine
    rwa [show line.number = place by omega]
  · intro errors
    rw [read_eq_error_iff, areErrorsOf_iff]
  · intro properties accepted key property
    exact get?_eq_some_iff (wellDeclared_of_read accepted)

end Phrasebook.Properties
