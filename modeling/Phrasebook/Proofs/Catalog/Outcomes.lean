import Phrasebook.Proofs.Catalog.Overrides

namespace Phrasebook.Catalog

open Placeholder (ArgumentTable Piece Reference Token)

/-!
# What becomes of a key in a locale

A locale other than the root locale meets every key in one of a few ways: it falls back to the root
message or overrides it, declares a key that the root locale lacks, or does one of these against the
rules. Which way it is, is settled by the root declaration, the declaration of the locale and the
policy, and it settles the message of the locale and the messages of the problems.
-/

/-! ## Variants -/

/-- What a token of an overriding variant becomes, given the arguments of the root message. -/
inductive Resolves
    (table : ArgumentTable) :
    Token →
    Piece →
    Prop where
  | text (text : String) :
      Resolves table (.text text) (.text text)
  | argument
      {reference : Reference}
      {index : Nat} :
      table.resolve reference = .ok index →
      Resolves table (.argument reference) (.argument index)

/-- Whether a variant can be scanned and all its placeholders resolved, into which pieces. -/
def ResolvesVariant
    (table : ArgumentTable)
    (text : String)
    (pieces : List Piece) :
    Prop :=
  ∃ tokens, Placeholder.scan text = .ok tokens ∧ List.Forall₂ (Resolves table) tokens pieces

/-- Why a variant cannot be used: it cannot be scanned, or one of its placeholders, the first that
is reported, is not among the arguments. -/
inductive IsFaultOf
    (table : ArgumentTable)
    (text : String) :
    VariantFault →
    Prop where
  | unscanned
      {unknown : Placeholder.UnknownType} :
      Placeholder.scan text = .error unknown →
      IsFaultOf table text (.unknownType unknown)
  | unresolved
      {before after : List Token}
      {reference : Reference}
      {pieces : List Piece}
      {fault : Placeholder.ArgumentFault} :
      Placeholder.scan text = .ok (before ++ .argument reference :: after) →
      List.Forall₂ (Resolves table) before pieces →
      table.resolve reference = .error fault →
      IsFaultOf table text (.argument fault)

/-- The faults of some variants, one for each variant that cannot be used. -/
inductive AreFaultsOf
    (table : ArgumentTable) :
    List String →
    List VariantFault →
    Prop where
  | nil :
      AreFaultsOf table [] []
  | usable
      {text : String}
      {texts : List String}
      {pieces : List Piece}
      {faults : List VariantFault} :
      ResolvesVariant table text pieces →
      AreFaultsOf table texts faults →
      AreFaultsOf table (text :: texts) faults
  | unusable
      {text : String}
      {texts : List String}
      {fault : VariantFault}
      {faults : List VariantFault} :
      IsFaultOf table text fault →
      AreFaultsOf table texts faults →
      AreFaultsOf table (text :: texts) (fault :: faults)

theorem resolveToken_eq_ok_iff
    {table : ArgumentTable}
    {token : Token}
    {piece : Piece} :
    resolveToken table token = .ok piece ↔ Resolves table token piece := by
  constructor
  · intro resolved
    unfold resolveToken at resolved
    split at resolved
    · cases resolved
      exact .text _
    · split at resolved
      · cases resolved
      · rename_i accepted
        cases resolved
        exact .argument accepted
  · intro resolves
    cases resolves with
    | text text =>
        rfl
    | argument accepted =>
        rw [resolveToken, accepted]

theorem resolveToken_eq_error_iff
    {table : ArgumentTable}
    {token : Token}
    {fault : VariantFault} :
    resolveToken table token = .error fault ↔
      ∃ reference argumentFault,
        token = .argument reference ∧
        table.resolve reference = .error argumentFault ∧
        fault = .argument argumentFault := by
  constructor
  · intro failed
    unfold resolveToken at failed
    split at failed
    · cases failed
    · split at failed
      · rename_i reference _ argumentFault rejected
        cases failed
        exact ⟨reference, argumentFault, rfl, rejected, rfl⟩
      · cases failed
  · rintro ⟨reference, argumentFault, rfl, rejected, rfl⟩
    rw [resolveToken, rejected]

theorem resolveVariant_eq_ok_iff
    {table : ArgumentTable}
    {text : String}
    {pieces : List Piece} :
    resolveVariant table text = .ok pieces ↔ ResolvesVariant table text pieces := by
  rw [resolveVariant, ResolvesVariant]
  cases scanned : Placeholder.scan text with
  | error unknown =>
      simp
  | ok tokens =>
      simp [mapM_eq_ok_iff, resolveToken_eq_ok_iff]

theorem resolveVariant_eq_error_iff
    {table : ArgumentTable}
    {text : String}
    {fault : VariantFault} :
    resolveVariant table text = .error fault ↔ IsFaultOf table text fault := by
  constructor
  · intro failed
    unfold resolveVariant at failed
    split at failed
    · rename_i unknown rejected
      cases failed
      exact .unscanned rejected
    · rename_i tokens scanned
      obtain ⟨before, token, after, pieces, rfl, earlier, tokenFailed⟩ :=
        mapM_eq_error_iff.mp failed
      obtain ⟨reference, argumentFault, rfl, rejected, rfl⟩ :=
        resolveToken_eq_error_iff.mp tokenFailed
      exact .unresolved scanned
        (earlier.imp fun token piece resolved => resolveToken_eq_ok_iff.mp resolved) rejected
  · intro isFault
    cases isFault with
    | unscanned rejected =>
        rw [resolveVariant, rejected]
    | unresolved scanned earlier rejected =>
        rw [resolveVariant, scanned]
        have tokensResolved :=
          earlier.imp fun token piece resolves => resolveToken_eq_ok_iff.mpr resolves
        exact mapM_eq_error_iff.mpr
          ⟨_, _, _, _, rfl, tokensResolved,
            resolveToken_eq_error_iff.mpr ⟨_, _, rfl, rejected, rfl⟩⟩

theorem messageOf?_map_ok
    (variants : List (List Piece)) :
    messageOf? (variants.map .ok) = some variants := by
  induction variants with
  | nil =>
      rfl
  | cons pieces variants inductionHypothesis =>
      rw [List.map_cons, messageOf?, inductionHypothesis]
      rfl

theorem messageOf?_eq_some_iff
    {table : ArgumentTable}
    {texts : List String}
    {variants : List (List Piece)} :
    messageOf? (texts.map (resolveVariant table)) = some variants ↔
      List.Forall₂ (ResolvesVariant table) texts variants := by
  have outcomes :
      texts.map (resolveVariant table) = variants.map .ok ↔
        List.Forall₂ (ResolvesVariant table) texts variants := by
    simp only [← List.forall₂_eq_eq_eq, List.forall₂_map_left_iff, List.forall₂_map_right_iff,
      resolveVariant_eq_ok_iff]
  rw [← outcomes]
  refine ⟨outcomes_of_messageOf?, fun same => ?_⟩
  rw [same, messageOf?_map_ok]

theorem areFaultsOf_iff
    {table : ArgumentTable}
    {texts : List String}
    {faults : List VariantFault} :
    AreFaultsOf table texts faults ↔
      (texts.map (resolveVariant table)).filterMap fault? = faults := by
  constructor
  · intro areFaults
    induction areFaults with
    | nil =>
        rfl
    | usable resolves further inductionHypothesis =>
        rw [List.map_cons, resolveVariant_eq_ok_iff.mpr resolves]
        exact inductionHypothesis
    | unusable isFault further inductionHypothesis =>
        rw [List.map_cons, resolveVariant_eq_error_iff.mpr isFault]
        exact congrArg (List.cons _) inductionHypothesis
  · rintro rfl
    induction texts with
    | nil =>
        exact .nil
    | cons text texts inductionHypothesis =>
        rw [List.map_cons]
        cases resolved : resolveVariant table text with
        | ok pieces =>
            exact .usable (resolveVariant_eq_ok_iff.mp resolved) inductionHypothesis
        | error fault =>
            exact .unusable (resolveVariant_eq_error_iff.mp resolved) inductionHypothesis

theorem messageOf?_eq_none_iff
    (outcomes : List (Except VariantFault (List Piece))) :
    messageOf? outcomes = none ↔ outcomes.filterMap fault? ≠ [] := by
  induction outcomes with
  | nil =>
      simp [messageOf?]
  | cons outcome outcomes inductionHypothesis =>
      cases outcome with
      | error fault =>
          simp [messageOf?, fault?]
      | ok pieces =>
          rw [messageOf?, Option.map_eq_none_iff, inductionHypothesis]
          rfl

theorem noFaults_of_messageOf?
    {outcomes : List (Except VariantFault (List Piece))}
    {variants : List (List Piece)}
    (found : messageOf? outcomes = some variants) :
    outcomes.filterMap fault? = [] := by
  by_contra nonempty
  rw [(messageOf?_eq_none_iff outcomes).mpr nonempty] at found
  cases found

/-! ## Keys -/

/-- The number of variants that a locale has to give a root key. -/
def neededVariants
    (locale : Locale)
    (entry : RootEntry) :
    Nat :=
  if entry.arity.isPlural then
    locale.pluralForms
  else
    1

/-- What becomes of a key in the file of a locale, given what the root file says about the key, if
it has it: the overriding message, and the messages of the problems. -/
inductive Outcome
    (sourceSet : SourceSet)
    (locale : Locale)
    (file : ResourceFile)
    (key : String) :
    Option RootEntry →
    Option Message →
    List String →
    Prop where
  | fallsBack
      (entry : RootEntry) :
      (∀ property ∈ file.properties, property.key ≠ key) →
      sourceSet.fallback.allowMissingKeys = true →
      Outcome sourceSet locale file key (some entry) none []
  | missing
      (entry : RootEntry) :
      (∀ property ∈ file.properties, property.key ≠ key) →
      sourceSet.fallback.allowMissingKeys = false →
      Outcome sourceSet locale file key (some entry) none
        ["key is missing and missing keys are not allowed"]
  | miscounted
      {entry : RootEntry}
      {property : Properties.Property} :
      property ∈ file.properties →
      property.key = key →
      property.variants.length ≠ neededVariants locale entry →
      Outcome sourceSet locale file key (some entry) none
        ["expected " ++ toString (neededVariants locale entry) ++ " variant(s), found " ++
          toString property.variants.length]
  | overrides
      {entry : RootEntry}
      {property : Properties.Property}
      {variants : List (List Piece)} :
      property ∈ file.properties →
      property.key = key →
      property.variants.length = neededVariants locale entry →
      List.Forall₂ (ResolvesVariant entry.arguments)
        (property.variants.map sourceSet.transformed) variants →
      Outcome sourceSet locale file key (some entry) (some ⟨variants⟩) []
  | unusable
      {entry : RootEntry}
      {property : Properties.Property}
      {faults : List VariantFault} :
      property ∈ file.properties →
      property.key = key →
      property.variants.length = neededVariants locale entry →
      AreFaultsOf entry.arguments (property.variants.map sourceSet.transformed) faults →
      faults ≠ [] →
      Outcome sourceSet locale file key (some entry) none (faults.map VariantFault.message)
  | unknown :
      (∀ property ∈ file.properties, property.key ≠ key) →
      Outcome sourceSet locale file key none none []
  | ignored
      {property : Properties.Property} :
      property ∈ file.properties →
      property.key = key →
      sourceSet.fallback.ignoreExtraKeys = true →
      Outcome sourceSet locale file key none none []
  | extraneous
      {property : Properties.Property} :
      property ∈ file.properties →
      property.key = key →
      sourceSet.fallback.ignoreExtraKeys = false →
      Outcome sourceSet locale file key none none
        ["extraneous key not declared by the root locale"]

/-- The outcome of a root key that a file lacks. -/
theorem outcome_iff_of_missing
    {sourceSet : SourceSet}
    {locale : Locale}
    {file : ResourceFile}
    {key : String}
    {entry : RootEntry}
    {override : Option Message}
    {messages : List String}
    (lacking : ∀ property ∈ file.properties, property.key ≠ key) :
    Outcome sourceSet locale file key (some entry) override messages ↔
      override = none ∧
      messages =
        if sourceSet.fallback.allowMissingKeys then
          []
        else
          ["key is missing and missing keys are not allowed"] := by
  constructor
  · intro outcome
    cases outcome with
    | fallsBack _ _ allowed =>
        simp [allowed]
    | missing _ _ refused =>
        simp [refused]
    | miscounted isMember same | overrides isMember same | unusable isMember same =>
        exact absurd same (lacking _ isMember)
  · rintro ⟨rfl, rfl⟩
    split
    · rename_i allowed
      exact .fallsBack entry lacking allowed
    · rename_i refused
      exact .missing entry lacking (Bool.eq_false_iff.mpr refused)

/-- The outcome of a key that neither the root file nor another file has, or the other file only. -/
theorem outcome_iff_of_unknown
    {sourceSet : SourceSet}
    {locale : Locale}
    {file : ResourceFile}
    {key : String}
    {override : Option Message}
    {messages : List String} :
    Outcome sourceSet locale file key none override messages ↔
      override = none ∧
      messages =
        if sourceSet.fallback.ignoreExtraKeys ∨
            ∀ property ∈ file.properties, property.key ≠ key then
          []
        else
          ["extraneous key not declared by the root locale"] := by
  constructor
  · intro outcome
    cases outcome with
    | unknown lacking =>
        exact ⟨rfl, (if_pos (.inr lacking)).symm⟩
    | ignored isMember same ignores =>
        exact ⟨rfl, (if_pos (.inl ignores)).symm⟩
    | extraneous isMember same refused =>
        refine ⟨rfl, (if_neg ?_).symm⟩
        rintro (ignores | lacking)
        · rw [refused] at ignores
          cases ignores
        · exact lacking _ isMember same
  · rintro ⟨rfl, rfl⟩
    by_cases lacking : ∀ property ∈ file.properties, property.key ≠ key
    · rw [if_pos (.inr lacking)]
      exact .unknown lacking
    · push Not at lacking
      obtain ⟨property, isMember, same⟩ := lacking
      cases ignores : sourceSet.fallback.ignoreExtraKeys with
      | true =>
          rw [if_pos (.inl rfl)]
          exact .ignored isMember same ignores
      | false =>
          rw [if_neg]
          · exact .extraneous isMember same ignores
          · rintro (ignored | lacking)
            · cases ignored
            · exact lacking property isMember same

theorem expectedVariants_eq_neededVariants
    (locale : Locale)
    (entry : RootEntry) :
    entry.arity.expectedVariants locale.pluralForms = neededVariants locale entry := by
  unfold neededVariants
  cases entry.arity <;> rfl

/-- What resolving a declaration with as many variants as are needed gives. -/
theorem overrideOf_of_counted
    {locale : Locale}
    {entry : RootEntry}
    {property : Properties.Property}
    (sourceSet : SourceSet)
    (counted : property.variants.length = neededVariants locale entry) :
    overrideOf sourceSet locale entry property =
      let outcomes :=
        (property.variants.map sourceSet.transformed).map (resolveVariant entry.arguments)
      ((messageOf? outcomes).map Message.mk,
        (outcomes.filterMap fault?).map VariantFault.message) := by
  unfold overrideOf
  simp only [expectedVariants_eq_neededVariants]
  rw [if_pos counted, List.map_map]
  rfl

/-- The outcome of a root key that a file declares once, with as many variants as are needed. -/
theorem outcome_iff_of_counted
    {sourceSet : SourceSet}
    {locale : Locale}
    {file : ResourceFile}
    {entry : RootEntry}
    {property : Properties.Property}
    {override : Option Message}
    {messages : List String}
    (isMember : property ∈ file.properties)
    (only : ∀ other ∈ file.properties, other.key = property.key → other = property)
    (counted : property.variants.length = neededVariants locale entry) :
    Outcome sourceSet locale file property.key (some entry) override messages ↔
      (override, messages) = overrideOf sourceSet locale entry property := by
  simp only [overrideOf_of_counted sourceSet counted]
  constructor
  · intro outcome
    -- The declaration that an outcome is about is the given one, for the key has no other.
    cases outcome with
    | fallsBack _ lacking | missing _ lacking =>
        exact absurd rfl (lacking property isMember)
    | miscounted otherMember same otherCounted =>
        rw [only _ otherMember same] at otherCounted
        exact absurd counted otherCounted
    | overrides otherMember same otherCounted resolves =>
        rw [only _ otherMember same] at resolves
        have found := messageOf?_eq_some_iff.mpr resolves
        rw [found, noFaults_of_messageOf? found]
        rfl
    | unusable otherMember same otherCounted areFaults nonempty =>
        rw [only _ otherMember same, areFaultsOf_iff] at areFaults
        subst areFaults
        rw [(messageOf?_eq_none_iff _).mpr nonempty]
        rfl
  · intro same
    cases found :
        messageOf?
          ((property.variants.map sourceSet.transformed).map
            (resolveVariant entry.arguments)) with
    | some variants =>
        rw [found, noFaults_of_messageOf? found] at same
        cases same
        exact .overrides isMember rfl counted (messageOf?_eq_some_iff.mp found)
    | none =>
        rw [found] at same
        cases same
        exact .unusable isMember rfl counted (areFaultsOf_iff.mpr rfl)
          ((messageOf?_eq_none_iff _).mp found)

/-- The outcome of a root key that a file declares once. -/
theorem outcome_iff_of_declared
    {sourceSet : SourceSet}
    {locale : Locale}
    {file : ResourceFile}
    {entry : RootEntry}
    {property : Properties.Property}
    {override : Option Message}
    {messages : List String}
    (isMember : property ∈ file.properties)
    (only : ∀ other ∈ file.properties, other.key = property.key → other = property) :
    Outcome sourceSet locale file property.key (some entry) override messages ↔
      (override, messages) = overrideOf sourceSet locale entry property := by
  by_cases counted : property.variants.length = neededVariants locale entry
  · exact outcome_iff_of_counted isMember only counted
  · unfold overrideOf
    simp only [expectedVariants_eq_neededVariants]
    rw [if_neg counted]
    constructor
    · intro outcome
      cases outcome with
      | fallsBack _ lacking | missing _ lacking =>
          exact absurd rfl (lacking property isMember)
      | miscounted otherMember same =>
          rw [only _ otherMember same]
      | overrides otherMember same otherCounted | unusable otherMember same otherCounted =>
          rw [only _ otherMember same] at otherCounted
          exact absurd otherCounted counted
    · intro same
      cases same
      exact .miscounted isMember rfl counted

end Phrasebook.Catalog
