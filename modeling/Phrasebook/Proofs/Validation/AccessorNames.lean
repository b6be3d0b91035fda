import Mathlib.Data.Finset.Card
import Phrasebook.Proofs.Validation.Names

namespace Phrasebook.Validation

/-!
# The accessor names that are refused

A key gets one diagnostic for its accessor name if the name is no identifier, belongs to a member
of every generated type, or is that of an earlier key, and none otherwise. However many keys share
a name, each but the first of them is reported, and always against the first.
-/

/-- What is wrong with the accessor name of a key. -/
inductive AccessorProblem where
  | illegal
  | reserved
  | taken (firstKey : String)
  deriving Repr, DecidableEq

namespace AccessorProblem

/-- Whether another key has the name. -/
def isTaken :
    AccessorProblem →
    Bool
  | .taken _ => true
  | _ => false

/-- The diagnostic of a problem. -/
def diagnostic
    (naming : Naming)
    (rootFile : Path)
    (entry : CatalogEntry) :
    AccessorProblem →
    Diagnostic
  | .illegal =>
      entryDiagnostic .validation rootFile entry
        ("naming strategy " ++ naming.displayName ++ " maps the key to `" ++
          naming.accessorName entry.key ++ "`, which is not a legal identifier")
  | .reserved =>
      entryDiagnostic .namingConflict rootFile entry
        ("accessor `" ++ naming.accessorName entry.key ++ "` would shadow a generated member")
  | .taken firstKey =>
      entryDiagnostic .namingConflict rootFile entry
        ("keys `" ++ firstKey ++ "` and `" ++ entry.key ++ "` both map to accessor `" ++
          naming.accessorName entry.key ++ "`")

end AccessorProblem

/-- The problem of the accessor name of an entry after earlier entries. A name that cannot be used
by itself is not compared with others. -/
inductive HasAccessorProblem
    (naming : Naming)
    (before : List CatalogEntry)
    (entry : CatalogEntry) :
    AccessorProblem →
    Prop where
  | illegal :
      Identifier.isLegal (naming.accessorName entry.key) = false →
      HasAccessorProblem naming before entry .illegal
  | reserved :
      Identifier.isLegal (naming.accessorName entry.key) = true →
      naming.accessorName entry.key ∈ reservedMembers →
      HasAccessorProblem naming before entry .reserved
  | taken
      {earlier between : List CatalogEntry}
      {first : CatalogEntry} :
      IsAccessorName (naming.accessorName entry.key) →
      before = earlier ++ first :: between →
      naming.accessorName first.key = naming.accessorName entry.key →
      (∀ other ∈ earlier,
        naming.accessorName other.key ≠ naming.accessorName entry.key) →
      HasAccessorProblem naming before entry (.taken first.key)

/-! ## One entry -/

/-- Whether the accessor of an entry has a name. -/
def hasName
    (naming : Naming)
    (name : String)
    (entry : CatalogEntry) :
    Bool :=
  naming.accessorName entry.key == name

/-- The problem of the accessor name of an entry, if there is one. -/
def accessorProblem?
    (naming : Naming)
    (before : List CatalogEntry)
    (entry : CatalogEntry) :
    Option AccessorProblem :=
  let name := naming.accessorName entry.key
  if !Identifier.isLegal name then
    some .illegal
  else if reservedMembers.contains name then
    some .reserved
  else
    (before.find? (hasName naming name)).map fun first => .taken first.key

/-- An accessor name is no identifier, belongs to a generated member, or can be used. -/
theorem accessorName_cases
    (name : String) :
    Identifier.isLegal name = false ∨
      Identifier.isLegal name = true ∧ name ∈ reservedMembers ∨
      IsAccessorName name := by
  by_cases legal : Identifier.isLegal name = true
  · by_cases reserved : name ∈ reservedMembers
    · exact .inr (.inl ⟨legal, reserved⟩)
    · exact .inr (.inr ⟨legal, reserved⟩)
  · exact .inl (Bool.eq_false_iff.mpr legal)

theorem accessorProblem?_of_illegal
    {naming : Naming}
    {entry : CatalogEntry}
    (before : List CatalogEntry)
    (illegal : Identifier.isLegal (naming.accessorName entry.key) = false) :
    accessorProblem? naming before entry = some .illegal := by
  simp [accessorProblem?, illegal]

theorem accessorProblem?_of_reserved
    {naming : Naming}
    {entry : CatalogEntry}
    (before : List CatalogEntry)
    (legal : Identifier.isLegal (naming.accessorName entry.key) = true)
    (reserved : naming.accessorName entry.key ∈ reservedMembers) :
    accessorProblem? naming before entry = some .reserved := by
  simp [accessorProblem?, legal, reserved]

theorem accessorProblem?_of_isAccessorName
    {naming : Naming}
    {entry : CatalogEntry}
    (before : List CatalogEntry)
    (isName : IsAccessorName (naming.accessorName entry.key)) :
    accessorProblem? naming before entry =
      (before.find? (hasName naming (naming.accessorName entry.key))).map
        fun first => .taken first.key := by
  simp [accessorProblem?, isName.legal, isName.unreserved]

/-- The first entry whose accessor has a name. -/
theorem find?_hasName_eq_some_iff
    {naming : Naming}
    {name : String}
    {before : List CatalogEntry}
    {first : CatalogEntry} :
    before.find? (hasName naming name) = some first ↔
      ∃ earlier between,
        before = earlier ++ first :: between ∧
        naming.accessorName first.key = name ∧
        ∀ other ∈ earlier, naming.accessorName other.key ≠ name := by
  rw [List.find?_eq_some_iff_append]
  simp only [hasName, beq_iff_eq, Bool.not_eq_true', beq_eq_false_iff_ne]
  tauto

/-- An entry has just the problem that is found. -/
theorem accessorProblem?_eq_some_iff
    {naming : Naming}
    {before : List CatalogEntry}
    {entry : CatalogEntry}
    {problem : AccessorProblem} :
    accessorProblem? naming before entry = some problem ↔
      HasAccessorProblem naming before entry problem := by
  constructor
  · intro found
    rcases accessorName_cases (naming.accessorName entry.key) with
      illegal | ⟨legal, reserved⟩ | isName
    · rw [accessorProblem?_of_illegal before illegal] at found
      cases found
      exact .illegal illegal
    · rw [accessorProblem?_of_reserved before legal reserved] at found
      cases found
      exact .reserved legal reserved
    · rw [accessorProblem?_of_isAccessorName before isName] at found
      obtain ⟨first, isFirst, rfl⟩ := Option.map_eq_some_iff.mp found
      obtain ⟨earlier, between, shape, same, noneEarlier⟩ := find?_hasName_eq_some_iff.mp isFirst
      exact .taken isName shape same noneEarlier
  · intro has
    cases has with
    | illegal illegal =>
        exact accessorProblem?_of_illegal before illegal
    | reserved legal reserved =>
        exact accessorProblem?_of_reserved before legal reserved
    | taken isName shape same noneEarlier =>
        rw [accessorProblem?_of_isAccessorName before isName,
          find?_hasName_eq_some_iff.mpr ⟨_, _, shape, same, noneEarlier⟩]
        rfl

/-! ## The names that are given out -/

/-- A name that can be used is given to the first entry that has it. -/
theorem lookup_givenWith
    {naming : Naming}
    {name : String}
    (given : GivenNames)
    (entry : CatalogEntry)
    (isName : IsAccessorName name) :
    (givenWith naming given entry).lookup name =
      (given.lookup name).or (if hasName naming name entry then some entry.key else none) := by
  by_cases same : naming.accessorName entry.key = name
  · -- The name is given out now, unless it was before.
    subst same
    simp only [givenWith, hasName, isName.legal, Bool.not_true, Bool.false_or, BEq.rfl, if_true]
    cases known : given.lookup (naming.accessorName entry.key) <;> simp [known, isName.unreserved]
  · have apart : (name == naming.accessorName entry.key) = false :=
      beq_eq_false_iff_ne.mpr (Ne.symm same)
    have unnamed : hasName naming name entry = false := beq_eq_false_iff_ne.mpr same
    rw [unnamed, if_neg Bool.false_ne_true, Option.or_none]
    simp only [givenWith]
    split
    · rfl
    · rw [List.lookup_cons, apart]

/-- The names that are given out while entries are checked know the first key of each name. -/
def KnowsFirst
    (naming : Naming)
    (before : List CatalogEntry)
    (given : GivenNames) :
    Prop :=
  ∀ name, IsAccessorName name →
    given.lookup name = (before.find? (hasName naming name)).map fun first => first.key

theorem KnowsFirst.givenWith
    {naming : Naming}
    {before : List CatalogEntry}
    {given : GivenNames}
    (knows : KnowsFirst naming before given)
    (entry : CatalogEntry) :
    KnowsFirst naming (before ++ [entry]) (givenWith naming given entry) := by
  intro name isName
  rw [lookup_givenWith given entry isName, knows name isName, List.find?_append,
    List.find?_singleton]
  cases before.find? (hasName naming name) with
  | some first =>
      rfl
  | none =>
      split <;> simp_all

theorem accessorDiagnostics_eq
    {naming : Naming}
    {before : List CatalogEntry}
    {given : GivenNames}
    (rootFile : Path)
    (knows : KnowsFirst naming before given)
    (entry : CatalogEntry) :
    accessorDiagnostics naming rootFile given entry =
      (accessorProblem? naming before entry).toList.map
        (AccessorProblem.diagnostic naming rootFile entry) := by
  simp only [accessorDiagnostics]
  rcases accessorName_cases (naming.accessorName entry.key) with
    illegal | ⟨legal, reserved⟩ | isName
  · rw [accessorProblem?_of_illegal before illegal]
    simp [illegal, AccessorProblem.diagnostic]
  · rw [accessorProblem?_of_reserved before legal reserved]
    simp [legal, reserved, AccessorProblem.diagnostic]
  · rw [accessorProblem?_of_isAccessorName before isName, knows _ isName]
    simp only [isName.legal, Bool.not_true, if_false, List.contains_iff_mem, isName.unreserved]
    cases before.find? (hasName naming (naming.accessorName entry.key)) <;> rfl

/-! ## All entries -/

/-- The problem of each of some entries, after earlier entries. -/
def accessorProblemsAfter
    (naming : Naming)
    (before : List CatalogEntry) :
    List CatalogEntry →
    List (Option AccessorProblem)
  | [] => []
  | entry :: entries =>
      accessorProblem? naming before entry ::
        accessorProblemsAfter naming (before ++ [entry]) entries

/-- The problem of the accessor name of each entry of a catalog. -/
def accessorProblems
    (naming : Naming)
    (catalog : Catalog) :
    List (Option AccessorProblem) :=
  accessorProblemsAfter naming [] catalog.entries

/-- The diagnostics of the names of an entry: that of its accessor, then those of its arguments. -/
def entryDiagnostics
    (naming : Naming)
    (rootFile : Path)
    (entry : CatalogEntry)
    (problem : Option AccessorProblem) :
    List Diagnostic :=
  problem.toList.map (AccessorProblem.diagnostic naming rootFile entry) ++
    entry.arguments.arguments.flatMap (argumentDiagnostics rootFile entry)

@[simp]
theorem length_accessorProblemsAfter
    (naming : Naming)
    (before entries : List CatalogEntry) :
    (accessorProblemsAfter naming before entries).length = entries.length := by
  induction entries generalizing before with
  | nil =>
      rfl
  | cons entry entries inductionHypothesis =>
      rw [accessorProblemsAfter, List.length_cons, List.length_cons, inductionHypothesis]

theorem accessorProblemsAfter_append
    (naming : Naming)
    (before first second : List CatalogEntry) :
    accessorProblemsAfter naming before (first ++ second) =
      accessorProblemsAfter naming before first ++
        accessorProblemsAfter naming (before ++ first) second := by
  induction first generalizing before with
  | nil =>
      rw [List.append_nil, accessorProblemsAfter, List.nil_append, List.nil_append]
  | cons entry first inductionHypothesis =>
      simp only [List.cons_append, accessorProblemsAfter, inductionHypothesis, List.append_assoc,
        List.nil_append]

theorem getElem?_accessorProblemsAfter
    (naming : Naming)
    (before first rest : List CatalogEntry)
    (entry : CatalogEntry) :
    (accessorProblemsAfter naming before (first ++ entry :: rest))[first.length]? =
      some (accessorProblem? naming (before ++ first) entry) := by
  rw [accessorProblemsAfter_append, List.getElem?_append_right (by simp)]
  simp [accessorProblemsAfter]

theorem nameDiagnosticsAfter_eq
    {naming : Naming}
    {before : List CatalogEntry}
    {given : GivenNames}
    (rootFile : Path)
    (knows : KnowsFirst naming before given)
    (entries : List CatalogEntry) :
    nameDiagnosticsAfter naming rootFile given entries =
      (List.zipWith (entryDiagnostics naming rootFile) entries
        (accessorProblemsAfter naming before entries)).flatten := by
  induction entries generalizing before given with
  | nil =>
      rfl
  | cons entry entries inductionHypothesis =>
      rw [nameDiagnosticsAfter, accessorDiagnostics_eq rootFile knows entry,
        inductionHypothesis (knows.givenWith entry), accessorProblemsAfter, List.zipWith_cons_cons,
        List.flatten_cons, entryDiagnostics]

/-! ## Collisions -/

/-- Whether a name can be that of an accessor, if no other accessor has it. -/
def isUsable
    (name : String) :
    Bool :=
  Identifier.isLegal name && !reservedMembers.contains name

theorem isUsable_iff
    {name : String} :
    isUsable name = true ↔ IsAccessorName name := by
  simp only [isUsable, Bool.and_eq_true, Bool.not_eq_true', ← Bool.not_eq_true,
    List.contains_iff_mem]
  exact ⟨fun ⟨legal, unreserved⟩ => ⟨legal, unreserved⟩,
    fun isName => ⟨isName.legal, isName.unreserved⟩⟩

/-- The accessor names of some entries that are identifiers and belong to no generated member. -/
def usableNames
    (naming : Naming)
    (entries : List CatalogEntry) :
    List String :=
  (entries.map fun entry => naming.accessorName entry.key).filter isUsable

theorem usableNames_append
    (naming : Naming)
    (first second : List CatalogEntry) :
    usableNames naming (first ++ second) =
      usableNames naming first ++ usableNames naming second := by
  rw [usableNames, List.map_append, List.filter_append]
  rfl

theorem mem_usableNames_iff
    {naming : Naming}
    {name : String}
    {entries : List CatalogEntry} :
    name ∈ usableNames naming entries ↔
      IsAccessorName name ∧ ∃ entry ∈ entries, naming.accessorName entry.key = name := by
  rw [usableNames, List.mem_filter, List.mem_map, isUsable_iff, and_comm]

/-- How many problems are that another key has the name. -/
def countTaken
    (problems : List (Option AccessorProblem)) :
    Nat :=
  problems.countP fun problem => problem.any AccessorProblem.isTaken

theorem countTaken_append
    (first second : List (Option AccessorProblem)) :
    countTaken (first ++ second) = countTaken first + countTaken second :=
  List.countP_append

/-- The name of an entry is a further one that can be used just if it can be used and the entry
does not collide with an earlier one. -/
theorem countTaken_accessorProblem?
    (naming : Naming)
    (before : List CatalogEntry)
    (entry : CatalogEntry) :
    countTaken [accessorProblem? naming before entry] +
        (usableNames naming (before ++ [entry])).toFinset.card =
      (usableNames naming [entry]).length + (usableNames naming before).toFinset.card := by
  by_cases usable : IsAccessorName (naming.accessorName entry.key)
  · have own : usableNames naming [entry] = [naming.accessorName entry.key] := by
      simp [usableNames, isUsable_iff.mpr usable]
    have extended :
        (usableNames naming (before ++ [entry])).toFinset =
          insert (naming.accessorName entry.key) (usableNames naming before).toFinset := by
      rw [usableNames_append, own, List.toFinset_append, Finset.union_comm]
      rfl
    rw [own, extended, accessorProblem?_of_isAccessorName before usable]
    cases found : before.find? (hasName naming (naming.accessorName entry.key)) with
    | some first =>
        obtain ⟨earlier, between, rfl, same, _⟩ := find?_hasName_eq_some_iff.mp found
        have known : naming.accessorName entry.key ∈
            usableNames naming (earlier ++ first :: between) :=
          mem_usableNames_iff.mpr ⟨usable, first, by simp, same⟩
        -- A collision adds no distinct name.
        rw [Finset.insert_eq_of_mem (List.mem_toFinset.mpr known)]
        rfl
    | none =>
        have unknown : naming.accessorName entry.key ∉ usableNames naming before := by
          intro isMember
          obtain ⟨_, other, isBefore, same⟩ := mem_usableNames_iff.mp isMember
          exact List.find?_eq_none.mp found other isBefore (beq_iff_eq.mpr same)
        rw [Finset.card_insert_of_notMem (mt List.mem_toFinset.mp unknown), Nat.add_comm _ 1]
        exact Nat.zero_add _
  · have own : usableNames naming [entry] = [] := by
      simp [usableNames, isUsable_iff, usable]
    have apart : countTaken [accessorProblem? naming before entry] = 0 := by
      rcases accessorName_cases (naming.accessorName entry.key) with
        illegal | ⟨legal, reserved⟩ | isName
      · rw [accessorProblem?_of_illegal before illegal]
        rfl
      · rw [accessorProblem?_of_reserved before legal reserved]
        rfl
      · exact absurd isName usable
    rw [usableNames_append, own, apart, List.append_nil, List.length_nil]

/-- The collisions of entries are as many as their names that can be used exceed the new ones. -/
theorem countTaken_accessorProblemsAfter
    (naming : Naming)
    (before entries : List CatalogEntry) :
    countTaken (accessorProblemsAfter naming before entries) +
        (usableNames naming (before ++ entries)).toFinset.card =
      (usableNames naming entries).length + (usableNames naming before).toFinset.card := by
  induction entries generalizing before with
  | nil =>
      rw [List.append_nil]
      rfl
  | cons entry entries inductionHypothesis =>
      have own := countTaken_accessorProblem? naming before entry
      have further := inductionHypothesis (before ++ [entry])
      rw [List.append_assoc, List.singleton_append] at further
      have counted :
          countTaken (accessorProblemsAfter naming before (entry :: entries)) =
            countTaken [accessorProblem? naming before entry] +
              countTaken (accessorProblemsAfter naming (before ++ [entry]) entries) :=
        countTaken_append [_] _
      have names :
          (usableNames naming (entry :: entries)).length =
            (usableNames naming [entry]).length + (usableNames naming entries).length := by
        rw [← List.length_append, ← usableNames_append, List.singleton_append]
      omega

/-! ## The report -/

/-- The report that checking the names of a catalog gives of its accessors. -/
structure ReportsAccessors
    (naming : Naming)
    (rootFile : Path)
    (catalog : Catalog) :
    Prop where
  named :
    (accessorNames naming catalog).length = catalog.entries.length ∧
      ∀ (index : Nat) (entry : CatalogEntry), catalog.entries[index]? = some entry →
        (accessorNames naming catalog)[index]? = some (naming.accessorName entry.key)
  reported :
    nameDiagnostics naming rootFile catalog =
      (List.zipWith (entryDiagnostics naming rootFile) catalog.entries
        (accessorProblems naming catalog)).flatten
  listed : (accessorProblems naming catalog).length = catalog.entries.length
  found :
    ∀ before entry after, catalog.entries = before ++ entry :: after →
      ∃ problem?,
        (accessorProblems naming catalog)[before.length]? = some problem? ∧
        ∀ problem, problem? = some problem ↔ HasAccessorProblem naming before entry problem
  collisions :
    countTaken (accessorProblems naming catalog) +
        (usableNames naming catalog.entries).toFinset.card =
      (usableNames naming catalog.entries).length
  sound :
    (∀ problem ∈ accessorProblems naming catalog, problem = none) →
      (∀ name ∈ accessorNames naming catalog, IsAccessorName name) ∧
      (accessorNames naming catalog).Nodup

/-- Without a problem all names can be used. -/
theorem isAccessorName_of_no_problem
    {naming : Naming}
    {catalog : Catalog}
    (noProblem : ∀ problem ∈ accessorProblems naming catalog, problem = none) :
    ∀ name ∈ accessorNames naming catalog, IsAccessorName name := by
  intro name isMember
  obtain ⟨entry, isEntry, rfl⟩ := List.mem_map.mp isMember
  obtain ⟨before, after, shape⟩ := List.append_of_mem isEntry
  have own := getElem?_accessorProblemsAfter naming [] before after entry
  rw [← shape] at own
  have silent := noProblem _ (List.mem_of_getElem? own)
  rcases accessorName_cases (naming.accessorName entry.key) with
    illegal | ⟨legal, reserved⟩ | isName
  · rw [accessorProblem?_of_illegal _ illegal] at silent
    cases silent
  · rw [accessorProblem?_of_reserved _ legal reserved] at silent
    cases silent
  · exact isName

/-- The accessor names of a catalog are reported with all their problems. -/
theorem reportsAccessors
    (naming : Naming)
    (rootFile : Path)
    (catalog : Catalog) :
    ReportsAccessors naming rootFile catalog := by
  have collisions :
      countTaken (accessorProblems naming catalog) +
          (usableNames naming catalog.entries).toFinset.card =
        (usableNames naming catalog.entries).length :=
    countTaken_accessorProblemsAfter naming [] catalog.entries
  refine ⟨⟨List.length_map _, ?_⟩, ?_, length_accessorProblemsAfter .., ?_, collisions, ?_⟩
  · intro index entry isEntry
    rw [accessorNames, List.getElem?_map, isEntry]
    rfl
  · exact nameDiagnosticsAfter_eq rootFile (fun _ _ => rfl) catalog.entries
  · intro before entry after shape
    have own := getElem?_accessorProblemsAfter naming [] before after entry
    rw [← shape] at own
    exact ⟨_, own, fun problem => accessorProblem?_eq_some_iff⟩
  · intro noProblem
    have areNames := isAccessorName_of_no_problem noProblem
    have noneTaken : countTaken (accessorProblems naming catalog) = 0 := by
      refine List.countP_eq_zero.mpr fun problem isMember => ?_
      rw [noProblem problem isMember]
      exact Bool.false_ne_true
    have allUsable : usableNames naming catalog.entries = accessorNames naming catalog :=
      List.filter_eq_self.mpr fun name isMember => isUsable_iff.mpr (areNames name isMember)
    -- Without collisions there are as many distinct names as names.
    rw [noneTaken, allUsable, Nat.zero_add, List.card_toFinset] at collisions
    have distinct := (List.dedup_sublist (accessorNames naming catalog)).eq_of_length collisions
    exact ⟨areNames, List.dedup_eq_self.mp distinct⟩

end Phrasebook.Validation
