import Mathlib.Algebra.Group.Nat.Even
import Phrasebook.Proofs.Properties.DecodingSteps
import Phrasebook.Proofs.Properties.LineAccount

namespace Phrasebook.Properties

/-!
# Logical lines are well formed and local

Whether a physical line is continued is decided on the text joined so far, but it depends on the
line itself: what was joined before it ends in an even number of backslashes once the last one is
dropped. So every logical line ends in an even number of backslashes, no physical line belongs to
two logical lines, and a text that no continuation leads out of can be read apart from what follows.
-/

/-! ## One physical line -/

theorem isContinued_dropBlanks
    (line : List Char) :
    isContinued (dropBlanks line) = isContinued line := by
  obtain ⟨separators, shape, all⟩ := dropsSeparators_dropBlanks line
  have even : isContinued separators = false :=
    isContinued_of_forall_ne fun character isMember =>
      ne_backslash_of_isSeparator (all character isMember)
  conv_rhs => rw [shape]
  rw [isContinued_append_right even]

/-- Whether each of some logical lines ends in an even number of backslashes. -/
def AreEven
    (lines : List LogicalLine) :
    Prop :=
  ∀ line ∈ lines, isContinued line.text = false

/-- Whether a continuation is due after a physical line, given whether one was due before it: the
line ends in an odd number of backslashes, and it is no comment, or continues one line as text. -/
def continues
    (due : Bool)
    (line : List Char) :
    Bool :=
  isContinued line && (due || !isSkipped (dropBlanks line))

/-- Whether a continuation is due after some physical lines. -/
def leavesOpen
    (lines : List (List Char)) :
    Bool :=
  lines.foldl continues false

/-- What one physical line adds: logical lines that are complete, and one whose continuation is
due. -/
theorem logicalLinesFrom_cons
    (number : Nat)
    {continued : Option LogicalLine}
    (even : AreEven continued.toList)
    (line : List Char) :
    ∃ (complete : List LogicalLine) (pending : Option LogicalLine),
      AreEven complete ∧
        AreEven pending.toList ∧
        pending.isSome = continues continued.isSome line ∧
        ∀ lines,
          logicalLinesFrom number continued (line :: lines) =
            complete ++ logicalLinesFrom (number + 1) pending lines := by
  have nothing : AreEven [] := List.forall_mem_nil _
  have single {place : Nat} {text : List Char} (closed : isContinued text = false) :
      AreEven [⟨place, text⟩] :=
    List.forall_mem_singleton.mpr closed
  cases continued with
  | none =>
      by_cases skipped : isSkipped (dropBlanks line) = true
      · refine ⟨[], none, nothing, nothing, by simp [continues, skipped], fun lines => ?_⟩
        rw [logicalLinesFrom, if_pos skipped]
        rfl
      · by_cases goesOn : isContinued (dropBlanks line) = true
        · refine ⟨[], some ⟨number, (dropBlanks line).dropLast⟩, nothing,
            single (isContinued_dropLast goesOn), ?_, fun lines => ?_⟩
          · rw [isContinued_dropBlanks] at goesOn
            simp [continues, skipped, goesOn]
          · rw [logicalLinesFrom, if_neg skipped, if_pos goesOn]
            rfl
        · refine ⟨[⟨number, dropBlanks line⟩], none,
            single (Bool.eq_false_iff.mpr goesOn), nothing, ?_, fun lines => ?_⟩
          · rw [isContinued_dropBlanks] at goesOn
            simp [continues, goesOn]
          · rw [logicalLinesFrom, if_neg skipped, if_neg goesOn]
            rfl
  | some start =>
      have startEven : isContinued start.text = false := even start (List.mem_singleton_self start)
      have own : isContinued (start.text ++ dropBlanks line) = isContinued line := by
        rw [isContinued_append_right startEven, isContinued_dropBlanks]
      by_cases goesOn : isContinued (start.text ++ dropBlanks line) = true
      · refine ⟨[], some ⟨start.number, (start.text ++ dropBlanks line).dropLast⟩, nothing,
          single (isContinued_dropLast goesOn), ?_, fun lines => ?_⟩
        · rw [own] at goesOn
          simp [continues, goesOn]
        · rw [logicalLinesFrom, if_pos goesOn]
          rfl
      · refine ⟨[⟨start.number, start.text ++ dropBlanks line⟩], none,
          single (Bool.eq_false_iff.mpr goesOn), nothing, ?_, fun lines => ?_⟩
        · rw [own] at goesOn
          simp [continues, goesOn]
        · rw [logicalLinesFrom, if_neg goesOn]
          rfl

/-! ## Several physical lines -/

/-- What some physical lines add to whatever follows them. -/
theorem logicalLinesFrom_append
    (number : Nat)
    {continued : Option LogicalLine}
    (even : AreEven continued.toList)
    (first : List (List Char)) :
    ∃ (complete : List LogicalLine) (pending : Option LogicalLine),
      AreEven complete ∧
        AreEven pending.toList ∧
        pending.isSome = first.foldl continues continued.isSome ∧
        ∀ second,
          logicalLinesFrom number continued (first ++ second) =
            complete ++ logicalLinesFrom (number + first.length) pending second := by
  induction first generalizing number continued with
  | nil =>
      exact ⟨[], continued, List.forall_mem_nil _, even, rfl, fun second => rfl⟩
  | cons line first inductionHypothesis =>
      obtain ⟨complete, pending, completeEven, pendingEven, due, added⟩ :=
        logicalLinesFrom_cons number even line
      obtain ⟨further, last, furtherEven, lastEven, stillDue, addedAfter⟩ :=
        inductionHypothesis (number + 1) pendingEven
      refine ⟨complete ++ further, last, List.forall_mem_append.mpr ⟨completeEven, furtherEven⟩,
        lastEven, ?_, fun second => ?_⟩
      · rw [stillDue, due, List.foldl_cons]
      · rw [List.cons_append, added, addedAfter, List.append_assoc, List.length_cons,
          Nat.add_right_comm, Nat.add_assoc]

theorem areEven_logicalLines
    (text : List Char) :
    AreEven (logicalLines text) := by
  have nothing : AreEven (none : Option LogicalLine).toList := List.forall_mem_nil _
  obtain ⟨complete, pending, completeEven, pendingEven, _, added⟩ :=
    logicalLinesFrom_append 1 nothing (Text.physicalLines text)
  have whole := added []
  rw [List.append_nil] at whole
  rw [logicalLines, whole]
  exact List.forall_mem_append.mpr ⟨completeEven, pendingEven⟩

namespace LogicalLine

/-- A logical line that starts after so many physical lines more. -/
def shifted
    (count : Nat)
    (line : LogicalLine) :
    LogicalLine :=
  { line with number := count + line.number }

end LogicalLine

/-- Reading physical lines does not depend on the number of the first of them. -/
theorem logicalLinesFrom_shifted
    (count number : Nat)
    (continued : Option LogicalLine)
    (lines : List (List Char)) :
    logicalLinesFrom (count + number) (continued.map (LogicalLine.shifted count)) lines =
      (logicalLinesFrom number continued lines).map (LogicalLine.shifted count) := by
  induction lines generalizing number continued with
  | nil =>
      cases continued <;> rfl
  | cons line lines inductionHypothesis =>
      have further (continued : Option LogicalLine) :
          logicalLinesFrom (count + number + 1) (continued.map (LogicalLine.shifted count)) lines =
            (logicalLinesFrom (number + 1) continued lines).map (LogicalLine.shifted count) :=
        inductionHypothesis (number + 1) continued
      cases continued with
      | none =>
          rw [Option.map_none, logicalLinesFrom, logicalLinesFrom]
          by_cases skipped : isSkipped (dropBlanks line) = true
          · rw [if_pos skipped, if_pos skipped]
            exact further none
          · by_cases goesOn : isContinued (dropBlanks line) = true
            · rw [if_neg skipped, if_neg skipped, if_pos goesOn, if_pos goesOn]
              exact further (some ⟨number, (dropBlanks line).dropLast⟩)
            · rw [if_neg skipped, if_neg skipped, if_neg goesOn, if_neg goesOn, List.map_cons,
                ← further none]
              rfl
      | some start =>
          have text : (start.shifted count).text = start.text := rfl
          rw [Option.map_some, logicalLinesFrom, logicalLinesFrom, text]
          by_cases goesOn : isContinued (start.text ++ dropBlanks line) = true
          · rw [if_pos goesOn, if_pos goesOn]
            exact further (some ⟨start.number, (start.text ++ dropBlanks line).dropLast⟩)
          · rw [if_neg goesOn, if_neg goesOn, List.map_cons, ← further none]
            rfl

/-! ## A text and what follows it -/

/-- No continuation is due after physical lines the last of which does not end in an odd number of
backslashes. -/
theorem leavesOpen_eq_false
    {lines : List (List Char)}
    {last : List Char}
    (isLast : lines.getLast? = some last)
    (even : isContinued last = false) :
    leavesOpen lines = false := by
  obtain ⟨before, rfl⟩ := List.getLast?_eq_some_iff.mp isLast
  rw [leavesOpen, List.foldl_concat, continues, even, Bool.false_and]

/-- A comment is not continued, but a line that continues another is no comment. -/
example :
    leavesOpen ["# comment\\".toList] = false ∧
      leavesOpen ["key=\\".toList, "# value\\".toList] = true := by
  decide

theorem logicalLines_append
    {text : List Char}
    (ended : text.getLast? = some '\n')
    (closed : leavesOpen (Text.physicalLines text) = false)
    (further : List Char) :
    logicalLines (text ++ further) =
      logicalLines text ++
        (logicalLines further).map (LogicalLine.shifted (Text.physicalLines text).length) := by
  have nothing : AreEven (none : Option LogicalLine).toList := List.forall_mem_nil _
  obtain ⟨complete, pending, _, _, due, added⟩ :=
    logicalLinesFrom_append 1 nothing (Text.physicalLines text)
  have nothingDue : pending = none :=
    Option.not_isSome_iff_eq_none.mp (Bool.eq_false_iff.mp (due.trans closed))
  subst nothingDue
  have alone : logicalLines text = complete := by
    have whole := added []
    rw [List.append_nil] at whole
    rw [logicalLines, whole]
    exact List.append_nil complete
  have shifted := logicalLinesFrom_shifted (Text.physicalLines text).length 1 none
    (Text.physicalLines further)
  rw [Nat.add_comm] at shifted
  rw [alone, logicalLines, Text.physicalLines_append ended, added, logicalLines, ← shifted]
  rfl

/-! ## The physical lines of a logical line -/

/-- A text takes up the same lines whenever it is followed by the same lines. -/
theorem Joins.taken_eq
    {text joined otherJoined : List Char}
    {taken rest otherTaken otherRest : List (List Char)}
    (joins : Joins text taken rest joined)
    (otherJoins : Joins text otherTaken otherRest otherJoined)
    (same : taken ++ rest = otherTaken ++ otherRest) :
    taken = otherTaken := by
  induction joins generalizing otherTaken with
  | complete rest even =>
      cases otherJoins with
      | complete => rfl
      | unfinished odd | next odd _ => cases even.symm.trans odd
  | unfinished odd =>
      cases otherJoins with
      | complete => rfl
      | unfinished => rfl
      | next => cases same
  | next odd _ inductionHypothesis =>
      cases otherJoins with
      | complete _ even => cases even.symm.trans odd
      | unfinished => cases same
      | next _ otherJoins =>
          rw [List.cons_append, List.cons_append, List.cons.injEq] at same
          obtain ⟨rfl, same⟩ := same
          rw [inductionHypothesis otherJoins same]

/-- Some of the physical lines that a logical line takes up: the first of them, which has the number
of the logical line, is neither blank nor a comment, and the others are joined to it. -/
inductive TakesUp
    (lines : List (List Char)) :
    LogicalLine →
    List (List Char) →
    Prop where
  | intro
      {before taken rest : List (List Char)}
      {first text : List Char} :
      lines = before ++ first :: (taken ++ rest) →
      isSkipped (dropBlanks first) = false →
      Joins (dropBlanks first) taken rest text →
      TakesUp lines ⟨before.length + 1, text⟩ (first :: taken)

theorem TakesUp.eq
    {lines taken otherTaken : List (List Char)}
    {line : LogicalLine}
    (takesUp : TakesUp lines line taken)
    (otherTakesUp : TakesUp lines line otherTaken) :
    taken = otherTaken := by
  obtain ⟨number, text⟩ := line
  cases takesUp with
  | intro shape _ joins =>
      generalize isNumber : _ + 1 = number at otherTakesUp
      cases otherTakesUp with
      | intro otherShape _ otherJoins =>
          obtain ⟨_, same⟩ := List.append_inj (shape ▸ otherShape) (Nat.succ.inj isNumber)
          obtain ⟨rfl, sameAfter⟩ := List.cons.inj same
          rw [joins.taken_eq otherJoins sameAfter]

/-- Whether the physical line of a number is one of those that a logical line takes up. -/
def BelongsTo
    (lines : List (List Char))
    (number : Nat)
    (line : LogicalLine) :
    Prop :=
  ∃ taken, TakesUp lines line taken ∧ line.number ≤ number ∧ number < line.number + taken.length

theorem MakeUp.takesUp
    {number : Nat}
    {lines : List (List Char)}
    {found : List LogicalLine}
    (makeUp : MakeUp number lines found)
    {before : List (List Char)}
    (isNumber : number = before.length + 1)
    {line : LogicalLine}
    (isMember : line ∈ found) :
    number ≤ line.number ∧ ∃ taken, TakesUp (before ++ lines) line taken := by
  induction makeUp generalizing before with
  | nil _ =>
      cases isMember
  | @skipped number first lines found _ _ inductionHypothesis =>
      have further : number + 1 = (before ++ [first]).length + 1 := by simp [isNumber]
      obtain ⟨later, takesUp⟩ := inductionHypothesis further isMember
      rw [← List.append_cons] at takesUp
      exact ⟨by omega, takesUp⟩
  | @joined number first text taken rest found starts joins _ inductionHypothesis =>
      rcases List.mem_cons.mp isMember with rfl | isLater
      · exact ⟨Nat.le_refl _, first :: taken, isNumber ▸ .intro rfl starts joins⟩
      · have further : number + 1 + taken.length = (before ++ first :: taken).length + 1 := by
          simp [isNumber]
          omega
        obtain ⟨later, takesUp⟩ := inductionHypothesis further isLater
        rw [List.append_assoc, List.cons_append] at takesUp
        exact ⟨by omega, takesUp⟩

/-- Whether a physical line, the lines before which are counted, is blank or a comment and belongs
to no logical line, or belongs to exactly one. -/
inductive IsGrouped
    (lines : List (List Char))
    (found : List LogicalLine)
    (index : Nat) :
    Prop where
  | skipped
      {line : List Char} :
      lines[index]? = some line →
      isSkipped (dropBlanks line) = true →
      (∀ line ∈ found, ¬BelongsTo lines (index + 1) line) →
      IsGrouped lines found index
  | owned
      {owner : LogicalLine} :
      owner ∈ found →
      BelongsTo lines (index + 1) owner →
      (∀ line ∈ found, BelongsTo lines (index + 1) line → line = owner) →
      IsGrouped lines found index

theorem IsGrouped.cons
    {lines : List (List Char)}
    {found : List LogicalLine}
    {index : Nat}
    {line : LogicalLine}
    (isGrouped : IsGrouped lines found index)
    (apart : ¬BelongsTo lines (index + 1) line) :
    IsGrouped lines (line :: found) index := by
  cases isGrouped with
  | skipped isLine skipped noOwner =>
      exact .skipped isLine skipped (List.forall_mem_cons.mpr ⟨apart, noOwner⟩)
  | owned isMember belongs isOnly =>
      refine .owned (List.mem_cons_of_mem line isMember) belongs
        (List.forall_mem_cons.mpr ⟨fun alsoBelongs => ?_, isOnly⟩)
      exact absurd alsoBelongs apart

/-- Every physical line is skipped or belongs to exactly one of the logical lines that they make
up. -/
theorem MakeUp.isGrouped
    {number : Nat}
    {lines : List (List Char)}
    {found : List LogicalLine}
    (makeUp : MakeUp number lines found)
    {before : List (List Char)}
    (isNumber : number = before.length + 1)
    {index : Nat}
    (inRange : index < lines.length) :
    IsGrouped (before ++ lines) found (before.length + index) := by
  induction makeUp generalizing before index with
  | nil _ =>
      cases inRange
  | @skipped number first lines found skipped tail inductionHypothesis =>
      have further : number + 1 = (before ++ [first]).length + 1 := by simp [isNumber]
      cases index with
      | zero =>
          refine .skipped (by simp) skipped fun line isMember belongs => ?_
          obtain ⟨_, _, startsBefore, _⟩ := belongs
          have later := (tail.takesUp further isMember).1
          omega
      | succ index =>
          have grouped := inductionHypothesis further (Nat.lt_of_succ_lt_succ inRange)
          rw [← List.append_cons, List.length_append, List.length_singleton, Nat.add_assoc,
            Nat.add_comm 1] at grouped
          exact grouped
  | @joined number first text taken rest found starts joins tail inductionHypothesis =>
      have own : TakesUp (before ++ first :: (taken ++ rest)) ⟨number, text⟩ (first :: taken) :=
        isNumber ▸ .intro rfl starts joins
      have further : number + 1 + taken.length = (before ++ first :: taken).length + 1 := by
        simp [isNumber]
        omega
      by_cases isOwn : index ≤ taken.length
      · -- Later logical lines start after all that this one takes up.
        refine .owned (List.mem_cons_self ..)
          ⟨_, own, by simp [isNumber], by simp [isNumber]; omega⟩
          (List.forall_mem_cons.mpr ⟨fun _ => rfl, fun line isMember belongs => ?_⟩)
        obtain ⟨_, _, startsBefore, _⟩ := belongs
        have later := (tail.takesUp further isMember).1
        omega
      · obtain ⟨index, rfl⟩ := Nat.exists_eq_add_of_lt (Nat.lt_of_not_le isOwn)
        have inRest : index < rest.length := by
          simp only [List.length_cons, List.length_append] at inRange
          omega
        have grouped := inductionHypothesis further inRest
        have place : (before ++ first :: taken).length + index =
            before.length + (taken.length + index + 1) := by
          simp only [List.length_append, List.length_cons]
          omega
        rw [List.append_assoc, List.cons_append, place] at grouped
        -- What a logical line takes up is determined, so this one ends before the place.
        refine grouped.cons ?_
        rintro ⟨otherTaken, otherOwn, _, endsAfter⟩
        rw [← own.eq otherOwn, List.length_cons] at endsAfter
        simp only at endsAfter
        omega

/-! ## The account of a text -/

/-- The logical lines of a text are well formed, share no physical line, and do not depend on what
follows the text, unless a continuation leads there. -/
structure AreWellFormedAndLocal
    (text : List Char) :
    Prop where
  even :
    ∀ line ∈ logicalLines text, Even (line.text.reverse.takeWhile (· == '\\')).length
  cut :
    ∀ line ∈ logicalLines text,
      IsCutBetweenEscapes line.text (keyAndValue line.text).1 (keyAndValue line.text).2
  increasing :
    (logicalLines text).Pairwise fun first second => first.number < second.number
  takenUp :
    ∀ line ∈ logicalLines text, ∃ taken, TakesUp (Text.physicalLines text) line taken
  grouped :
    ∀ index < (Text.physicalLines text).length,
      IsGrouped (Text.physicalLines text) (logicalLines text) index
  closed :
    ∀ last, (Text.physicalLines text).getLast? = some last →
      isContinued last = false →
        leavesOpen (Text.physicalLines text) = false
  separate :
    ∀ further,
      text.getLast? = some '\n' →
        leavesOpen (Text.physicalLines text) = false →
          logicalLines (text ++ further) =
            logicalLines text ++
              (logicalLines further).map
                (LogicalLine.shifted (Text.physicalLines text).length)

theorem areWellFormedAndLocal
    (text : List Char) :
    AreWellFormedAndLocal text := by
  have makeUp : MakeUp 1 (Text.physicalLines text) (logicalLines text) :=
    makeUp_logicalLinesFrom 1 (Text.physicalLines text)
  have isNumber : 1 = ([] : List (List Char)).length + 1 := rfl
  refine
    { even := fun line isMember => ?_
      cut := fun line isMember => ?_
      increasing := (increasing_logicalLinesFrom (by simp) (Text.physicalLines text)).1
      takenUp := fun line isMember => (makeUp.takesUp isNumber isMember).2
      grouped := fun index inRange => ?_
      closed := fun last => leavesOpen_eq_false
      separate := fun further ended closed => logicalLines_append ended closed further }
  · have even := areEven_logicalLines text line isMember
    rw [isContinued, beq_eq_false_iff_ne] at even
    exact Nat.even_iff.mpr (by omega)
  · exact isCutBetweenEscapes_keyAndValue (areEven_logicalLines text line isMember)
  · have grouped := makeUp.isGrouped isNumber inRange
    rwa [List.length_nil, Nat.zero_add] at grouped

end Phrasebook.Properties
