import Phrasebook.Proofs.Catalog.FinalNames
import Phrasebook.Proofs.Catalog.Isolation
import Phrasebook.Proofs.Placeholder.Consistency
import Phrasebook.Proofs.Placeholder.Scanner

namespace Phrasebook.Catalog

open Placeholder
  (ArgumentTable AreConsistent NumberArguments Piece Reference StatesNoDefaultName Token)

/-!
# When the placeholders of a root declaration are accepted

The placeholders of a root declaration are declared twice, in order, and faults of the first time
are passed over. Whether a fault is left in the end is nevertheless settled by the set of the
placeholders. If they number the arguments, then nothing goes wrong the first time, and the second
time changes nothing, so that each placeholder by name meets the final table. If they do not, then
some fault is left or the table is not complete.
-/

/-! ## The first time -/

theorem declareIndexed_eq_declareAll
    (table : ArgumentTable)
    (tokens : List Token) :
    declareIndexed table tokens =
      table.declareAll ((referencesIn tokens).filter (·.index.isSome)) := by
  induction tokens generalizing table with
  | nil =>
      rfl
  | cons token tokens inductionHypothesis =>
      cases token with
      | text text =>
          exact inductionHypothesis table
      | argument reference =>
          have shape :
              referencesIn (.argument reference :: tokens) = reference :: referencesIn tokens :=
            rfl
          rw [declareIndexed, shape, List.filter_cons]
          split
          · exact inductionHypothesis _
          · exact inductionHypothesis table

/-- The first time, the placeholders with an index are declared one after another. -/
theorem declaredBy_eq_declareAll
    (texts : List String) :
    declaredBy texts =
      ArgumentTable.declareAll {} ((referencesOf texts).filter (·.index.isSome)) := by
  unfold declaredBy referencesOf ArgumentTable.declareAll
  generalize ({} : ArgumentTable) = table
  induction texts generalizing table with
  | nil =>
      rfl
  | cons text texts inductionHypothesis =>
      rw [List.foldl_cons, inductionHypothesis, List.flatMap_cons, List.filter_append,
        List.foldl_append]
      cases Placeholder.scan text with
      | error unknown =>
          rfl
      | ok tokens =>
          exact congrArg (List.foldl _ · _) (declareIndexed_eq_declareAll table tokens)

/-! ## The second time -/

theorem holds_bindTokens
    {motive : ArgumentTable → Prop}
    {table : ArgumentTable}
    {tokens : List Token}
    (step :
      ∀ reference, .argument reference ∈ tokens →
        ∀ table, motive table → motive (table.declare reference).1)
    (initial : motive table) :
    motive (bindTokens table tokens).1 := by
  induction tokens generalizing table with
  | nil =>
      exact initial
  | cons token tokens inductionHypothesis =>
      have further :
          ∀ reference, .argument reference ∈ tokens →
            ∀ table, motive table → motive (table.declare reference).1 :=
        fun reference isMember => step reference (List.mem_cons_of_mem _ isMember)
      cases token with
      | text text =>
          exact inductionHypothesis further initial
      | argument reference =>
          have changed := step reference List.mem_cons_self table initial
          rw [bindTokens]
          split
          · rename_i final fault declared
            rw [declared] at changed
            exact changed
          · rename_i final index declared
            rw [declared] at changed
            exact inductionHypothesis further changed

/-- What every declaration preserves holds after the second time. -/
theorem holds_bindVariants
    {motive : ArgumentTable → Prop}
    {table : ArgumentTable}
    {texts : List String}
    (step :
      ∀ reference ∈ referencesOf texts,
        ∀ table, motive table → motive (table.declare reference).1)
    (initial : motive table) :
    motive (bindVariants table texts).1 := by
  induction texts generalizing table with
  | nil =>
      exact initial
  | cons text texts inductionHypothesis =>
      have further :
          ∀ reference ∈ referencesOf texts,
            ∀ table, motive table → motive (table.declare reference).1 :=
        fun reference isMember => step reference (List.mem_append_right _ isMember)
      refine inductionHypothesis further ?_
      split
      · exact initial
      · rename_i tokens scanned
        exact holds_bindTokens (fun reference within =>
          step reference (mem_referencesOf List.mem_cons_self scanned within)) initial

theorem bindTokens_eq_ok_iff
    {table : ArgumentTable}
    {tokens : List Token}
    (settled :
      ∀ reference, .argument reference ∈ tokens → (table.declare reference).1 = table) :
    (∃ pieces, (bindTokens table tokens).2 = .ok pieces) ↔
      ∀ reference, .argument reference ∈ tokens →
        ∃ index, (table.declare reference).2 = .ok index := by
  induction tokens with
  | nil =>
      simp [bindTokens]
  | cons token tokens inductionHypothesis =>
      have further := inductionHypothesis fun reference isMember =>
        settled reference (List.mem_cons_of_mem _ isMember)
      -- The pieces that follow are there just if the first one does not fail.
      have prepended (piece : Piece) :
          (∃ pieces, (bindTokens table tokens).2.map (piece :: ·) = .ok pieces) ↔
            ∃ pieces, (bindTokens table tokens).2 = .ok pieces := by
        cases (bindTokens table tokens).2 <;> simp [Except.map]
      cases token with
      | text text =>
          simp only [bindTokens, prepended, further, List.mem_cons, reduceCtorEq, false_or]
      | argument reference =>
          have unchanged := settled reference List.mem_cons_self
          rw [bindTokens]
          split
          · rename_i final fault declared
            simp [declared]
          · rename_i final index declared
            rw [declared] at unchanged
            cases unchanged
            simp only [prepended, further, List.mem_cons, Token.argument.injEq]
            constructor
            · rintro rest other (rfl | later)
              · exact ⟨index, congrArg Prod.snd declared⟩
              · exact rest other later
            · exact fun all other later => all other (.inr later)

/-- Where no placeholder changes the table, the second time leaves no fault just if all texts can be
scanned and all their placeholders declared. -/
theorem noFault_iff_of_settled
    {table : ArgumentTable}
    {texts : List String}
    (settled : ∀ reference ∈ referencesOf texts, (table.declare reference).1 = table) :
    (bindVariants table texts).2.filterMap fault? = [] ↔
      ∀ text ∈ texts, ∃ tokens,
        Placeholder.scan text = .ok tokens ∧
        ∀ reference, .argument reference ∈ tokens →
          ∃ index, (table.declare reference).2 = .ok index := by
  induction texts with
  | nil =>
      simp [bindVariants]
  | cons text texts inductionHypothesis =>
      have further := inductionHypothesis fun reference isMember =>
        settled reference (List.mem_append_right _ isMember)
      rw [List.forall_mem_cons, ← further, bindVariants, bindVariant]
      cases scanned : Placeholder.scan text with
      | error unknown =>
          simp [fault?]
      | ok tokens =>
          have here :
              ∀ reference, .argument reference ∈ tokens → (table.declare reference).1 = table :=
            fun reference within =>
              settled reference (mem_referencesOf List.mem_cons_self scanned within)
          have unchanged : (bindTokens table tokens).1 = table :=
            holds_bindTokens (motive := (· = table))
              (fun reference within _ same => by rw [same]; exact here reference within) rfl
          simp only [unchanged, Except.ok.injEq, exists_eq_left', ← bindTokens_eq_ok_iff here]
          cases (bindTokens table tokens).2 <;> simp [fault?]

/-! ## Sets of placeholders -/

/-- Whether all variants of a declaration can be scanned, after they have been transformed. -/
def CanBeScanned
    (sourceSet : SourceSet)
    (property : Properties.Property) :
    Prop :=
  ∀ variant ∈ property.variants, ∃ tokens,
    Placeholder.scan (sourceSet.transformed variant) = .ok tokens

/-- The placeholders of the variants of a declaration, after they have been transformed. -/
def placeholdersOf
    (sourceSet : SourceSet)
    (property : Properties.Property) :
    Set Reference :=
  {reference |
    ∃ variant ∈ property.variants, ∃ tokens,
      Placeholder.scan (sourceSet.transformed variant) = .ok tokens ∧
      .argument reference ∈ tokens}

theorem exists_tokens_of_mem_referencesOf
    {texts : List String}
    {reference : Reference}
    (isMember : reference ∈ referencesOf texts) :
    ∃ text ∈ texts, ∃ tokens,
      Placeholder.scan text = .ok tokens ∧ .argument reference ∈ tokens := by
  obtain ⟨text, textMember, within⟩ := List.mem_flatMap.mp isMember
  cases scanned : Placeholder.scan text with
  | error unknown =>
      rw [scanned] at within
      cases within
  | ok tokens =>
      rw [scanned] at within
      exact ⟨text, textMember, tokens, scanned, mem_referencesIn.mp within⟩

theorem placeholdersOf_eq
    (sourceSet : SourceSet)
    (property : Properties.Property) :
    placeholdersOf sourceSet property =
      {reference | reference ∈ referencesOf (property.variants.map sourceSet.transformed)} := by
  refine Set.ext fun reference => ⟨?_, fun isMember => ?_⟩
  · rintro ⟨variant, isMember, tokens, scanned, within⟩
    exact mem_referencesOf (List.mem_map_of_mem isMember) scanned within
  · obtain ⟨text, textMember, tokens, scanned, within⟩ :=
      exists_tokens_of_mem_referencesOf isMember
    obtain ⟨variant, variantMember, rfl⟩ := List.mem_map.mp textMember
    exact ⟨variant, variantMember, tokens, scanned, within⟩

/-! ## Faults of a root declaration -/

/-- If the placeholders number the arguments, the table of the first time agrees with all of
them. -/
theorem honoursAll_declaredBy
    {texts : List String}
    (numbers : NumberArguments {reference | reference ∈ referencesOf texts})
    (noDefault : StatesNoDefaultName {reference | reference ∈ referencesOf texts}) :
    ArgumentTable.GoesBackTo (referencesOf texts) (declaredBy texts) ∧
      (declaredBy texts).HonoursAll (referencesOf texts) := by
  have empty := ArgumentTable.goesBackTo_empty (referencesOf texts)
  have subset :
      ∀ reference ∈ (referencesOf texts).filter (·.index.isSome),
        reference ∈ referencesOf texts :=
    fun reference isMember => List.mem_of_mem_filter isMember
  rw [declaredBy_eq_declareAll]
  refine ⟨(empty.declareAll subset).1, fun reference isMember index indexed => ?_⟩
  have hasIndex : reference ∈ (referencesOf texts).filter (·.index.isSome) :=
    List.mem_filter.mpr ⟨isMember, by rw [indexed]; rfl⟩
  exact ArgumentTable.honoursAll_declareAll empty numbers noDefault subset reference hasIndex index
    indexed

/-- The table of the first time finds each placeholder with an index as it has declared it. -/
theorem declare_declaredBy
    {texts : List String}
    (numbers : NumberArguments {reference | reference ∈ referencesOf texts})
    (noDefault : StatesNoDefaultName {reference | reference ∈ referencesOf texts})
    {reference : Reference}
    (isMember : reference ∈ referencesOf texts)
    {index : Nat}
    (indexed : reference.index = some index) :
    (declaredBy texts).declare reference = (declaredBy texts, .ok index) := by
  obtain ⟨goesBack, honoured⟩ := honoursAll_declaredBy numbers noDefault
  exact goesBack.declare_of_honours numbers noDefault isMember indexed
    (honoured reference isMember index indexed)

theorem declare_declaredBy_fst
    {texts : List String}
    (numbers : NumberArguments {reference | reference ∈ referencesOf texts})
    (noDefault : StatesNoDefaultName {reference | reference ∈ referencesOf texts})
    {reference : Reference}
    (isMember : reference ∈ referencesOf texts) :
    ((declaredBy texts).declare reference).1 = declaredBy texts := by
  cases indexed : reference.index with
  | some index =>
      rw [declare_declaredBy numbers noDefault isMember indexed]
  | none =>
      rw [ArgumentTable.declare, indexed]

/-- If the placeholders number the arguments, no fault is left just if all texts can be scanned and
each placeholder by name names an argument, and the table is complete in any case. -/
theorem noFault_iff_of_numberArguments
    {texts : List String}
    (numbers : NumberArguments {reference | reference ∈ referencesOf texts})
    (noDefault : StatesNoDefaultName {reference | reference ∈ referencesOf texts}) :
    (bindVariants (declaredBy texts) texts).1.checkComplete = .ok () ∧
      ((bindVariants (declaredBy texts) texts).2.filterMap fault? = [] ↔
        (∀ text ∈ texts, ∃ tokens, Placeholder.scan text = .ok tokens) ∧
          AreConsistent {reference | reference ∈ referencesOf texts}) := by
  obtain ⟨goesBack, honoured⟩ := honoursAll_declaredBy numbers noDefault
  have settled :
      ∀ reference ∈ referencesOf texts,
        ((declaredBy texts).declare reference).1 = declaredBy texts :=
    fun _ isMember => declare_declaredBy_fst numbers noDefault isMember
  have unchanged : (bindVariants (declaredBy texts) texts).1 = declaredBy texts :=
    holds_bindVariants (motive := (· = declaredBy texts))
      (fun reference isMember _ same => by rw [same]; exact settled reference isMember) rfl
  have nameDeclared (name : String) :
      (∃ index, ((declaredBy texts).declare ⟨none, some name, none⟩).2 = .ok index) ↔
        Placeholder.IsArgumentName {reference | reference ∈ referencesOf texts} name :=
    ((declaredBy texts).resolve_nameAlone_iff name).trans (goesBack.named?_isSome_iff honoured name)
  refine ⟨?_, ?_⟩
  · rw [unchanged]
    exact goesBack.checkComplete_eq_ok numbers noDefault honoured
  rw [noFault_iff_of_settled settled]
  constructor
  · intro accepted
    refine ⟨fun text isMember => ?_, numbers, ?_⟩
    · obtain ⟨tokens, scanned, _⟩ := accepted text isMember
      exact ⟨tokens, scanned⟩
    · intro reference isMember noIndex name named
      obtain ⟨text, textMember, tokens, scanned, within⟩ :=
        exists_tokens_of_mem_referencesOf isMember
      obtain ⟨written, rfl⟩ := Placeholder.isNameAlone_of_scan scanned within noIndex
      cases named
      obtain ⟨others, othersScanned, declared⟩ := accepted text textMember
      rw [scanned] at othersScanned
      cases othersScanned
      exact (nameDeclared name).mp (declared _ within)
  · rintro ⟨scans, consistent⟩ text textMember
    obtain ⟨tokens, scanned⟩ := scans text textMember
    refine ⟨tokens, scanned, fun reference within => ?_⟩
    have isMember := mem_referencesOf textMember scanned within
    cases indexed : reference.index with
    | some index =>
        exact ⟨index, congrArg Prod.snd (declare_declaredBy numbers noDefault isMember indexed)⟩
    | none =>
        obtain ⟨name, rfl⟩ := Placeholder.isNameAlone_of_scan scanned within indexed
        exact (nameDeclared name).mpr (consistent.known _ isMember rfl name rfl)

/-- If no fault is left and the table is complete, the placeholders number the arguments. -/
theorem numberArguments_of_noFault
    {texts : List String}
    (noFault : (bindVariants (declaredBy texts) texts).2.filterMap fault? = [])
    (complete : (bindVariants (declaredBy texts) texts).1.checkComplete = .ok ()) :
    NumberArguments {reference | reference ∈ referencesOf texts} := by
  have goesBack :
      ArgumentTable.GoesBackTo (referencesOf texts) (bindVariants (declaredBy texts) texts).1 := by
    refine holds_bindVariants
      (fun reference isMember table goesBack => goesBack.declare isMember) ?_
    rw [declaredBy_eq_declareAll]
    exact ((ArgumentTable.goesBackTo_empty _).declareAll fun reference isMember =>
      List.mem_of_mem_filter isMember).1
  obtain ⟨_, _, bound⟩ :=
    bindsVariant_of_bindVariants (arisen_declaredBy texts) fun _ isMember => isMember
  have variants := forall₂_rootPieces bound (outcome_ok_of_fault? noFault)
  exact ArgumentTable.numberArguments_of_complete goesBack
    (fun reference isMember index indexed => honours_of_bindsVariant variants isMember indexed)
    complete

/-- A root declaration has no problem but that of its arity just if its variants can be scanned and
its placeholders are consistent. -/
theorem messages_rootEntry_iff
    {sourceSet : SourceSet}
    {root : Locale}
    {property : Properties.Property}
    (noDefault : StatesNoDefaultName (placeholdersOf sourceSet property)) :
    (rootEntry sourceSet root property).2 = arityMessages root (arityOf property) ↔
      CanBeScanned sourceSet property ∧ AreConsistent (placeholdersOf sourceSet property) := by
  have silent :
      (rootEntry sourceSet root property).2 = arityMessages root (arityOf property) ↔
        (bindVariants (declaredBy (property.variants.map sourceSet.transformed))
            (property.variants.map sourceSet.transformed)).2.filterMap fault? = [] ∧
          (bindVariants (declaredBy (property.variants.map sourceSet.transformed))
            (property.variants.map sourceSet.transformed)).1.checkComplete = .ok () := by
    simp only [rootEntry, List.append_assoc, List.append_right_eq_self, List.append_eq_nil_iff,
      List.map_eq_nil_iff, completenessMessages]
    refine and_congr_right fun _ => ?_
    cases (bindVariants (declaredBy (property.variants.map sourceSet.transformed))
      (property.variants.map sourceSet.transformed)).1.checkComplete <;> simp
  have scans :
      CanBeScanned sourceSet property ↔
        ∀ text ∈ property.variants.map sourceSet.transformed,
          ∃ tokens, Placeholder.scan text = .ok tokens := by
    simp [CanBeScanned]
  rw [placeholdersOf_eq] at noDefault ⊢
  rw [silent, scans]
  constructor
  · rintro ⟨noFault, complete⟩
    have numbers := numberArguments_of_noFault noFault complete
    exact (noFault_iff_of_numberArguments numbers noDefault).2.mp noFault
  · rintro ⟨scanned, consistent⟩
    have settled := noFault_iff_of_numberArguments consistent.toNumberArguments noDefault
    exact ⟨settled.2.mpr ⟨scanned, consistent⟩, settled.1⟩

/-! ## Problems of a key in the root file -/

/-- The problems of a key that name the root locale. -/
def rootProblemsOf
    (root : Locale)
    (key : String)
    (diagnostics : List Diagnostic) :
    List Diagnostic :=
  (problemsOf key diagnostics).filter (·.locale == some root.tag)

/-- The problems of a root key that name the root locale are those of its declaration: other locales
report under their own tags. -/
theorem rootProblemsOf_build
    {sourceSet : SourceSet}
    {resources : ResourceSet}
    {root : Locale}
    {property : Properties.Property}
    (single : sourceSet.root? = some root)
    (distinct : resources.root.properties.Pairwise fun first second => first.key ≠ second.key)
    (declared : property ∈ resources.root.properties) :
    rootProblemsOf root property.key (build sourceSet resources).diagnostics =
      rootDiagnostics sourceSet root resources.root property := by
  have isRootIndex := Validation.isRootIndex_of_root? single
  have ofDeclaration :
      ∀ declaration ∈ resources.root.properties,
        ∀ diagnostic ∈ rootDiagnostics sourceSet root resources.root declaration,
          diagnostic.key = some declaration.key ∧ diagnostic.locale = some root.tag := by
    intro declaration _ diagnostic listed
    obtain ⟨message, _, rfl⟩ := List.mem_map.mp listed
    exact ⟨rfl, rfl⟩
  have found : resources.root.properties.find? (·.key == property.key) = some property :=
    Properties.get?_eq_some_of_distinct distinct declared
  have elsewhere :
      ∀ diagnostic ∈ (sourceSet.locales.zip resources.locales).flatMap fun pair =>
          localeDiagnostics sourceSet
            (resources.root.properties.map fun property => (rootEntry sourceSet root property).1)
            pair.1 pair.2,
        ¬(diagnostic.locale == some root.tag) := by
    intro diagnostic listed named
    obtain ⟨⟨locale, resource⟩, _, ofLocale⟩ := List.mem_flatMap.mp listed
    have ofTag := locale_of_mem_localeDiagnostics ofLocale
    rw [beq_iff_eq.mp named, Option.some.injEq] at ofTag
    have isRoot := isRootIndex.isRoot
    rw [Locale.isRoot_congr ofTag] at isRoot
    simp [localeDiagnostics, isRoot] at ofLocale
  have ofRoot :
      problemsOf property.key
          (resources.root.properties.flatMap (rootDiagnostics sourceSet root resources.root)) =
        rootDiagnostics sourceSet root resources.root property := by
    rw [problemsOf_flatMap distinct fun declaration isMember diagnostic listed =>
      (ofDeclaration declaration isMember diagnostic listed).1, found]
    simp
  have keeps :
      (rootDiagnostics sourceSet root resources.root property).filter (·.locale == some root.tag) =
        rootDiagnostics sourceSet root resources.root property :=
    List.filter_eq_self.mpr fun diagnostic listed =>
      beq_iff_eq.mpr (ofDeclaration property declared diagnostic listed).2
  rw [rootProblemsOf, diagnostics_build resources isRootIndex.placed]
  simp only [problemsOf] at ofRoot ⊢
  rw [List.filter_append, ofRoot, List.filter_append, keeps, List.append_right_eq_self,
    List.filter_eq_nil_iff]
  exact fun diagnostic listed => elsewhere diagnostic (List.mem_of_mem_filter listed)

/-- Whether a catalog lists no problem of a root declaration but that it has the wrong number of
variants. -/
def HasNoPlaceholderProblem
    (sourceSet : SourceSet)
    (resources : ResourceSet)
    (root : Locale)
    (property : Properties.Property) :
    Prop :=
  rootProblemsOf root property.key (build sourceSet resources).diagnostics =
    (arityMessages root (arityOf property)).map
      (keyDiagnostic root resources.root property.key (some property.line))

/-- Whether it is settled by the set of its placeholders, wherever they stand in its variants, that
a root declaration is accepted. -/
structure IsAcceptedAsSet
    (sourceSet : SourceSet)
    (resources : ResourceSet)
    (root : Locale)
    (property : Properties.Property) :
    Prop where
  consistent :
    HasNoPlaceholderProblem sourceSet resources root property ↔
      CanBeScanned sourceSet property ∧ AreConsistent (placeholdersOf sourceSet property)
  unordered :
    ∀ (otherResources : ResourceSet) (other : Properties.Property),
      (otherResources.root.properties.Pairwise fun first second => first.key ≠ second.key) →
      other ∈ otherResources.root.properties →
      (CanBeScanned sourceSet other ↔ CanBeScanned sourceSet property) →
      placeholdersOf sourceSet other = placeholdersOf sourceSet property →
      (HasNoPlaceholderProblem sourceSet otherResources root other ↔
        HasNoPlaceholderProblem sourceSet resources root property)

/-- The placeholders of a root declaration, none of which states a default name, are accepted just
if all its variants can be scanned and the set of its placeholders is consistent. -/
theorem hasNoPlaceholderProblem_iff
    {sourceSet : SourceSet}
    {resources : ResourceSet}
    {root : Locale}
    {property : Properties.Property}
    (single : sourceSet.root? = some root)
    (distinct : resources.root.properties.Pairwise fun first second => first.key ≠ second.key)
    (declared : property ∈ resources.root.properties)
    (noDefault : StatesNoDefaultName (placeholdersOf sourceSet property)) :
    HasNoPlaceholderProblem sourceSet resources root property ↔
      CanBeScanned sourceSet property ∧ AreConsistent (placeholdersOf sourceSet property) := by
  have injective :
      Function.Injective (keyDiagnostic root resources.root property.key (some property.line)) :=
    fun _ _ same => congrArg Diagnostic.message same
  rw [HasNoPlaceholderProblem, rootProblemsOf_build single distinct declared, rootDiagnostics,
    injective.list_map.eq_iff]
  exact messages_rootEntry_iff noDefault

/-- A root declaration none of whose placeholders states a default name is accepted for the set of
its placeholders. -/
theorem isAcceptedAsSet_of_declared
    {sourceSet : SourceSet}
    {resources : ResourceSet}
    {root : Locale}
    {property : Properties.Property}
    (single : sourceSet.root? = some root)
    (distinct : resources.root.properties.Pairwise fun first second => first.key ≠ second.key)
    (declared : property ∈ resources.root.properties)
    (noDefault : StatesNoDefaultName (placeholdersOf sourceSet property)) :
    IsAcceptedAsSet sourceSet resources root property where
  consistent := hasNoPlaceholderProblem_iff single distinct declared noDefault
  unordered := by
    intro otherResources other otherDistinct otherDeclared scans same
    have otherNoDefault : StatesNoDefaultName (placeholdersOf sourceSet other) := by
      rw [same]
      exact noDefault
    rw [hasNoPlaceholderProblem_iff single distinct declared noDefault,
      hasNoPlaceholderProblem_iff single otherDistinct otherDeclared otherNoDefault, scans, same]

/-- A plural declaration whose placeholders by name stand before the placeholders that number the
arguments, and whose types are stated in one place only. -/
theorem isAcceptedAsSet_of_declared_plural :
    let sourceSet : SourceSet := { targetName := "Messages", locales := [⟨"", 2, "n > 1"⟩] }
    let property : Properties.Property :=
      ⟨"items", ["\x7bwho\x7d has one", "\x7bwho\x7d has \x7b1:n:int\x7d\x7b0:who\x7d"], 1⟩
    let file : ResourceFile := ⟨"", ⟨"messages.properties"⟩, [property]⟩
    let resources : ResourceSet := ⟨file, [.loaded file], []⟩
    StatesNoDefaultName (placeholdersOf sourceSet property) ∧
      IsAcceptedAsSet sourceSet resources ⟨"", 2, "n > 1"⟩ property := by
  intro sourceSet property file resources
  have references :
      referencesOf (property.variants.map sourceSet.transformed) =
        [⟨none, some "who", none⟩, ⟨none, some "who", none⟩, ⟨some 1, some "n", some .integer⟩,
          ⟨some 0, some "who", none⟩] := by
    cbv
  have noDefault : StatesNoDefaultName (placeholdersOf sourceSet property) := by
    rintro index name ⟨reference, isMember, indexed, named⟩ other isDefault
    have first : name.toList.head? = some 'a' := by
      rw [isDefault, ArgumentTable.defaultName, String.toList_append]
      rfl
    rw [placeholdersOf_eq, references] at isMember
    rcases isMember with _ | ⟨_, _ | ⟨_, _ | ⟨_, _ | ⟨_, further⟩⟩⟩⟩
    · cases indexed
    · cases indexed
    · cases named
      cases first
    · cases named
      cases first
    · cases further
  refine ⟨noDefault, isAcceptedAsSet_of_declared rfl ?_ ?_ noDefault⟩
  · exact List.pairwise_singleton _ _
  · exact List.mem_singleton_self _

end Phrasebook.Catalog
