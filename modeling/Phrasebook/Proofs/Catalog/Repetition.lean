import Phrasebook.Proofs.Catalog.Consistency
import Phrasebook.Proofs.Placeholder.Resolution

namespace Phrasebook.Catalog

open Placeholder (ArgumentTable Piece Reference Token)

/-!
# Translations that repeat placeholders of the root

The table of a root key is left behind by the declarations of its placeholders, those that fail
included. A placeholder with an index that could be declared at some time is resolved ever after, so
a translation may repeat it. If nothing is wrong with a root declaration, this holds of each of its
placeholders that has an index.
-/

/-! ## Declarations of a root key -/

/-- The placeholders of some tokens in the order in which they are declared, up to the first that
cannot be. -/
def declarationsIn
    (table : ArgumentTable) :
    List Token →
    List Reference
  | [] => []
  | .text _ :: tokens => declarationsIn table tokens
  | .argument reference :: tokens =>
      match table.declare reference with
      | (_, .error _) => [reference]
      | (changed, .ok _) => reference :: declarationsIn changed tokens

/-- The placeholders of a text in the order in which they are declared, none if it cannot be
scanned. -/
def declarationsInText
    (table : ArgumentTable)
    (text : String) :
    List Reference :=
  match Placeholder.scan text with
  | .error _ => []
  | .ok tokens => declarationsIn table tokens

/-- The placeholders of one text after another in the order in which they are declared. -/
def declarationsAlong
    (table : ArgumentTable) :
    List String →
    List Reference
  | [] => []
  | text :: texts =>
      declarationsInText table text ++ declarationsAlong (bindVariant table text).1 texts

/-- The placeholders of root variants in the order in which they are declared: first those with an
index, and then all of them. -/
def declarationsOf
    (texts : List String) :
    List Reference :=
  (referencesOf texts).filter (·.index.isSome) ++ declarationsAlong (declaredBy texts) texts

theorem bindTokens_eq_declareAll
    (table : ArgumentTable)
    (tokens : List Token) :
    (bindTokens table tokens).1 = table.declareAll (declarationsIn table tokens) := by
  fun_induction declarationsIn table tokens with
  | case1 =>
      rfl
  | case2 table text tokens inductionHypothesis =>
      exact inductionHypothesis
  | case3 table reference tokens changed fault declared =>
      rw [bindTokens, declared]
      exact congrArg Prod.fst declared.symm
  | case4 table reference tokens changed index declared inductionHypothesis =>
      have same : (table.declare reference).1 = changed := congrArg Prod.fst declared
      rw [bindTokens, declared]
      simp only
      rw [inductionHypothesis, ← same]
      rfl

theorem bindVariant_eq_declareAll
    (table : ArgumentTable)
    (text : String) :
    (bindVariant table text).1 = table.declareAll (declarationsInText table text) := by
  rw [bindVariant, declarationsInText]
  cases Placeholder.scan text with
  | error unknown =>
      rfl
  | ok tokens =>
      exact bindTokens_eq_declareAll table tokens

theorem bindVariants_eq_declareAll
    (table : ArgumentTable)
    (texts : List String) :
    (bindVariants table texts).1 = table.declareAll (declarationsAlong table texts) := by
  induction texts generalizing table with
  | nil =>
      rfl
  | cons text texts inductionHypothesis =>
      rw [declarationsAlong, ArgumentTable.declareAll_append, ← bindVariant_eq_declareAll]
      exact inductionHypothesis (bindVariant table text).1

/-- The table of a root key is left behind by its declarations. -/
theorem arguments_rootEntry
    (sourceSet : SourceSet)
    (root : Locale)
    (property : Properties.Property) :
    (rootEntry sourceSet root property).1.arguments =
      ArgumentTable.declareAll {}
        (declarationsOf (property.variants.map sourceSet.transformed)) := by
  rw [declarationsOf, ArgumentTable.declareAll_append, ← declaredBy_eq_declareAll]
  exact bindVariants_eq_declareAll _ _

/-! ## Placeholders that could be declared -/

/-- Whether one of some declarations is of a given placeholder, and succeeds with an index. -/
def Succeeds
    (table : ArgumentTable)
    (declarations : List Reference)
    (reference : Reference)
    (index : Nat) :
    Prop :=
  ∃ earlier later,
    declarations = earlier ++ reference :: later ∧
    ((table.declareAll earlier).declare reference).2 = .ok index

theorem Succeeds.append_right
    {table : ArgumentTable}
    {declarations : List Reference}
    {reference : Reference}
    {index : Nat}
    (succeeds : Succeeds table declarations reference index)
    (further : List Reference) :
    Succeeds table (declarations ++ further) reference index := by
  obtain ⟨earlier, later, rfl, declared⟩ := succeeds
  exact ⟨earlier, later ++ further, by simp, declared⟩

theorem Succeeds.append_left
    {table : ArgumentTable}
    {leading declarations : List Reference}
    {reference : Reference}
    {index : Nat}
    (succeeds : Succeeds (table.declareAll leading) declarations reference index) :
    Succeeds table (leading ++ declarations) reference index := by
  obtain ⟨earlier, later, rfl, declared⟩ := succeeds
  refine ⟨leading ++ earlier, later, by simp, ?_⟩
  rw [ArgumentTable.declareAll_append]
  exact declared

/-- Tokens that are bound to pieces have all been declared. -/
theorem succeeds_of_bindTokens
    {table : ArgumentTable}
    {tokens : List Token}
    {pieces : List Piece}
    {reference : Reference}
    (bound : (bindTokens table tokens).2 = .ok pieces)
    (within : .argument reference ∈ tokens) :
    ∃ index, Succeeds table (declarationsIn table tokens) reference index := by
  induction tokens generalizing table pieces with
  | nil =>
      cases within
  | cons token tokens inductionHypothesis =>
      cases token with
      | text text =>
          simp only [bindTokens] at bound
          obtain ⟨further, furtherBound, -⟩ := cons_of_map_eq_ok bound
          simp only [List.mem_cons, reduceCtorEq, false_or] at within
          exact inductionHypothesis furtherBound within
      | argument first =>
          rcases declared : table.declare first with ⟨changed, fault | index⟩
          · rw [bindTokens, declared] at bound
            cases bound
          · rw [bindTokens, declared] at bound
            rw [declarationsIn, declared]
            simp only
            obtain ⟨further, furtherBound, -⟩ := cons_of_map_eq_ok bound
            rcases List.mem_cons.mp within with same | later
            · cases same
              exact ⟨index, [], _, rfl, congrArg Prod.snd declared⟩
            · have same : table.declareAll [first] = changed := congrArg Prod.fst declared
              obtain ⟨other, succeeds⟩ := inductionHypothesis furtherBound later
              rw [← same] at succeeds ⊢
              exact ⟨other, succeeds.append_left⟩

/-- Texts that leave no fault have had all their placeholders declared. -/
theorem succeeds_of_bindVariants
    {table : ArgumentTable}
    {texts : List String}
    {reference : Reference}
    (noFault : (bindVariants table texts).2.filterMap fault? = [])
    (isMember : reference ∈ referencesOf texts) :
    ∃ index, Succeeds table (declarationsAlong table texts) reference index := by
  induction texts generalizing table with
  | nil =>
      cases isMember
  | cons text texts inductionHypothesis =>
      rw [bindVariants] at noFault
      obtain ⟨⟨pieces, bound⟩, -⟩ := List.forall_mem_cons.mp (outcome_ok_of_fault? noFault)
      rw [declarationsAlong]
      rcases List.mem_append.mp isMember with here | later
      · beta_reduce at here
        rw [bindVariant] at bound
        cases scanned : Placeholder.scan text with
        | error unknown =>
            rw [scanned] at here
            cases here
        | ok tokens =>
            rw [scanned] at here bound
            obtain ⟨index, succeeds⟩ := succeeds_of_bindTokens bound (mem_referencesIn.mp here)
            rw [declarationsInText, scanned]
            exact ⟨index, succeeds.append_right _⟩
      · have noFurther :
            (bindVariants (bindVariant table text).1 texts).2.filterMap fault? = [] := by
          simpa [bound, fault?] using noFault
        obtain ⟨index, succeeds⟩ := inductionHypothesis noFurther later
        rw [bindVariant_eq_declareAll] at succeeds ⊢
        exact ⟨index, succeeds.append_left⟩

/-- Whether a placeholder has an index and could be declared, at some time or other, for a root
key. -/
def IsDeclared
    (sourceSet : SourceSet)
    (property : Properties.Property)
    (reference : Reference) :
    Prop :=
  reference.index.isSome ∧
    ∃ index,
      Succeeds {} (declarationsOf (property.variants.map sourceSet.transformed)) reference index

/-- A placeholder with an index is declared if nothing is wrong with its root declaration. -/
theorem isDeclared_of_rootEntry
    {sourceSet : SourceSet}
    {root : Locale}
    {property : Properties.Property}
    {reference : Reference}
    (silent : (rootEntry sourceSet root property).2 = [])
    (isMember : reference ∈ placeholdersOf sourceSet property)
    (indexed : reference.index.isSome) :
    IsDeclared sourceSet property reference := by
  simp only [rootEntry, List.append_eq_nil_iff, List.map_eq_nil_iff] at silent
  rw [placeholdersOf_eq] at isMember
  obtain ⟨index, succeeds⟩ := succeeds_of_bindVariants silent.1.2 isMember
  refine ⟨indexed, index, ?_⟩
  rw [declaredBy_eq_declareAll] at succeeds
  rw [declarationsOf, declaredBy_eq_declareAll]
  exact succeeds.append_left

/-- A declared placeholder is resolved in the table of its root key. -/
theorem IsDeclared.resolve
    {sourceSet : SourceSet}
    {property : Properties.Property}
    {reference : Reference}
    (isDeclared : IsDeclared sourceSet property reference)
    (root : Locale) :
    ∃ index, (rootEntry sourceSet root property).1.arguments.resolve reference = .ok index := by
  obtain ⟨indexed, index, earlier, later, shape, declared⟩ := isDeclared
  obtain ⟨own, written⟩ := Option.isSome_iff_exists.mp indexed
  refine ⟨index, ?_⟩
  rw [arguments_rootEntry, shape]
  exact ArgumentTable.resolve_of_declared written declared later

/-! ## Translations -/

/-- Whether each placeholder of a translation repeats one that has been declared for a root key. -/
def RepeatsPlaceholders
    (sourceSet : SourceSet)
    (property translation : Properties.Property) :
    Prop :=
  ∀ variant ∈ translation.variants, ∃ tokens,
    Placeholder.scan (sourceSet.transformed variant) = .ok tokens ∧
    ∀ reference, .argument reference ∈ tokens → IsDeclared sourceSet property reference

/-- A text all of whose placeholders are resolved has pieces. -/
theorem exists_pieces_of_resolve
    {table : ArgumentTable}
    {text : String}
    {tokens : List Token}
    (scanned : Placeholder.scan text = .ok tokens)
    (resolved :
      ∀ reference, .argument reference ∈ tokens → ∃ index, table.resolve reference = .ok index) :
    ∃ pieces, resolveVariant table text = .ok pieces := by
  cases outcome : resolveVariant table text with
  | ok pieces =>
      exact ⟨pieces, rfl⟩
  | error fault =>
      cases resolveVariant_eq_error_iff.mp outcome with
      | unscanned rejected =>
          rw [scanned] at rejected
          cases rejected
      | @unresolved before after reference _ _ scannedAgain _ rejected =>
          rw [scanned] at scannedAgain
          cases scannedAgain
          obtain ⟨index, accepted⟩ := resolved reference (by simp)
          rw [rejected] at accepted
          cases accepted

theorem overrideOf_of_repeatsPlaceholders
    {sourceSet : SourceSet}
    {root locale : Locale}
    {property translation : Properties.Property}
    (expected :
      translation.variants.length =
        (rootEntry sourceSet root property).1.arity.expectedVariants locale.pluralForms)
    (repeats : RepeatsPlaceholders sourceSet property translation) :
    ∃ message,
      overrideOf sourceSet locale (rootEntry sourceSet root property).1 translation =
        (some message, []) := by
  have accepted :
      (translation.variants.map fun variant =>
        resolveVariant (rootEntry sourceSet root property).1.arguments
          (sourceSet.transformed variant)).filterMap fault? = [] := by
    refine List.filterMap_eq_nil_iff.mpr fun outcome isOutcome => ?_
    obtain ⟨variant, isVariant, rfl⟩ := List.mem_map.mp isOutcome
    obtain ⟨tokens, scanned, declared⟩ := repeats variant isVariant
    obtain ⟨pieces, resolved⟩ :=
      exists_pieces_of_resolve scanned fun reference within =>
        (declared reference within).resolve root
    rw [resolved]
    rfl
  have complete := (messageOf?_eq_none_iff _).not_left.mpr accepted
  obtain ⟨variants, found⟩ := Option.ne_none_iff_exists'.mp complete
  refine ⟨⟨variants⟩, ?_⟩
  rw [overrideOf, if_pos expected]
  simp only
  rw [found, accepted]
  rfl

/-- Whether translations of a root key may repeat its placeholders: each one with an index has been
declared if nothing is wrong with the root declaration, and a translation with as many variants as
it needs has no problem, and overrides the root message, if all its placeholders have been
declared. -/
structure AcceptsRepetitions
    (sourceSet : SourceSet)
    (root : Locale)
    (property : Properties.Property) :
    Prop where
  own :
    (rootEntry sourceSet root property).2 = [] →
      ∀ reference ∈ placeholdersOf sourceSet property, reference.index.isSome →
        IsDeclared sourceSet property reference
  accepted :
    ∀ (locale : Locale) (file : ResourceFile) (translation : Properties.Property),
      locale.isRoot = false →
      Properties.get? file.properties property.key = some translation →
      translation.variants.length =
        (rootEntry sourceSet root property).1.arity.expectedVariants locale.pluralForms →
      RepeatsPlaceholders sourceSet property translation →
      entryDiagnostics sourceSet locale file (rootEntry sourceSet root property).1 = [] ∧
        ∃ message,
          overrideIn sourceSet locale (.loaded file) (rootEntry sourceSet root property).1 =
            some message

/-- Translations may repeat the placeholders of every root declaration. -/
theorem acceptsRepetitions
    (sourceSet : SourceSet)
    (root : Locale)
    (property : Properties.Property) :
    AcceptsRepetitions sourceSet root property where
  own := fun silent _ isMember indexed => isDeclared_of_rootEntry silent isMember indexed
  accepted := by
    intro locale file translation noRoot found expected repeats
    obtain ⟨message, overridden⟩ := overrideOf_of_repeatsPlaceholders expected repeats
    have foundForEntry :
        Properties.get? file.properties (rootEntry sourceSet root property).1.key =
          some translation :=
      found
    refine ⟨?_, message, ?_⟩
    · rw [entryDiagnostics, foundForEntry]
      simp only
      rw [overridden, List.map_nil]
    · rw [overrideIn, noRoot, if_neg Bool.false_ne_true, foundForEntry]
      simp only
      rw [overridden]

/-- A placeholder with an index that can be declared is resolved to it ever after, whatever is
declared or refused then, so translations may repeat the placeholders of every root declaration. -/
theorem staysDeclared_and_acceptsRepetitions :
    (∀ (earlier later : List Reference) (reference : Reference) (index : Nat),
      reference.index.isSome →
      ((ArgumentTable.declareAll {} earlier).declare reference).2 = .ok index →
      (((ArgumentTable.declareAll {} earlier).declare reference).1.declareAll later).resolve
          reference =
        .ok index) ∧
    ∀ (sourceSet : SourceSet) (root : Locale) (property : Properties.Property),
      AcceptsRepetitions sourceSet root property := by
  refine ⟨?_, acceptsRepetitions⟩
  intro earlier later reference index indexed declared
  obtain ⟨own, written⟩ := Option.isSome_iff_exists.mp indexed
  have resolved := ArgumentTable.resolve_of_declared written declared later
  rw [ArgumentTable.declareAll_append] at resolved
  exact resolved

/-- A placeholder with a name and a type, after which another name and another type are refused, and
a translation that repeats it in another place. -/
theorem staysDeclared_and_acceptsRepetitions_count :
    let reference : Reference := ⟨some 1, some "count", some .integer⟩
    let table := ArgumentTable.declareAll {} [⟨some 0, none, none⟩]
    let sourceSet : SourceSet := { targetName := "Messages", locales := [⟨"", 1, "0"⟩] }
    let property : Properties.Property :=
      ⟨"files", ["\x7b0\x7d has \x7b1:count:int\x7d files"], 1⟩
    let translation : Properties.Property :=
      ⟨"files", ["\x7b1:count:int\x7d Dateien in \x7b0\x7d"], 1⟩
    let entry := (rootEntry sourceSet ⟨"", 1, "0"⟩ property).1
    (table.declare reference).2 = .ok 1 ∧
      ((table.declare reference).1.declareAll
          [⟨some 0, some "name", none⟩, ⟨some 1, some "size", none⟩,
            ⟨some 1, none, some .text⟩]).resolve reference = .ok 1 ∧
      RepeatsPlaceholders sourceSet property translation ∧
      entryDiagnostics sourceSet ⟨"de", 1, "0"⟩ ⟨"de", ⟨"messages_de.properties"⟩, [translation]⟩
        entry = [] := by
  intro reference table sourceSet property translation entry
  have declared : (table.declare reference).2 = .ok 1 := by cbv
  have accepts :=
    staysDeclared_and_acceptsRepetitions.2 sourceSet ⟨"", 1, "0"⟩ property
  have repeats : RepeatsPlaceholders sourceSet property translation := by
    have silent : (rootEntry sourceSet ⟨"", 1, "0"⟩ property).2 = [] := by cbv
    have own :
        placeholdersOf sourceSet property =
          {other | other ∈ [⟨some 0, none, none⟩, reference]} := by
      rw [placeholdersOf_eq]
      exact congrArg (fun others => {other | other ∈ others}) (by cbv)
    have repeated :
        ∀ other ∈ [reference, ⟨some 0, none, none⟩], IsDeclared sourceSet property other := by
      intro other isMember
      have isOwn : other ∈ placeholdersOf sourceSet property := by
        rw [own]
        exact List.mem_reverse.mp isMember
      refine accepts.own silent other isOwn ?_
      rcases List.mem_pair.mp isMember with rfl | rfl
      · rfl
      · rfl
    intro variant isVariant
    cases List.mem_singleton.mp isVariant
    refine ⟨[.argument reference, .text " Dateien in ", .argument ⟨some 0, none, none⟩], by cbv, ?_⟩
    intro other within
    exact repeated other (by simpa using within)
  refine ⟨declared, ?_, repeats, ?_⟩
  · exact staysDeclared_and_acceptsRepetitions.1 _ _ reference 1 rfl declared
  · exact (accepts.accepted _ _ translation (by cbv) (by cbv) (by cbv) repeats).1

end Phrasebook.Catalog
