import Phrasebook.Catalog
import Phrasebook.Proofs.Placeholder.Declaration

namespace Phrasebook.Catalog

open Placeholder (ArgumentTable Piece Reference Token)

/-!
# What the placeholders of root messages refer to

The placeholders of a root value are declared twice: first those with an index, where faults are
passed over, and then all of them in order. After the second time every indexed placeholder agrees
with the final table. A placeholder by name was looked up on the way there, and the name that it
was found by may since have given way to another one.
-/

/-- The placeholders of some tokens. -/
def referencesIn
    (tokens : List Token) :
    List Reference :=
  tokens.filterMap fun token =>
    match token with
    | .text _ => none
    | .argument reference => some reference

/-- The placeholders of some texts. -/
def referencesOf
    (texts : List String) :
    List Reference :=
  texts.flatMap fun text =>
    match Placeholder.scan text with
    | .error _ => []
    | .ok tokens => referencesIn tokens

theorem mem_referencesIn
    {tokens : List Token}
    {reference : Reference} :
    reference ∈ referencesIn tokens ↔ .argument reference ∈ tokens := by
  unfold referencesIn
  rw [List.mem_filterMap]
  constructor
  · rintro ⟨token, member, same⟩
    cases token with
    | text text =>
        cases same
    | argument written =>
        cases same
        exact member
  · intro member
    exact ⟨_, member, rfl⟩

theorem mem_referencesOf
    {texts : List String}
    {text : String}
    {tokens : List Token}
    {reference : Reference}
    (member : text ∈ texts)
    (scanned : Placeholder.scan text = .ok tokens)
    (within : .argument reference ∈ tokens) :
    reference ∈ referencesOf texts := by
  refine List.mem_flatMap.mpr ⟨text, member, ?_⟩
  rw [scanned]
  exact mem_referencesIn.mpr within

/-! ## The first time -/

theorem arisen_declareIndexed
    {references : List Reference}
    {table : ArgumentTable}
    {tokens : List Token}
    (arisen : table.Arisen references)
    (within : ∀ reference, .argument reference ∈ tokens → reference ∈ references) :
    (declareIndexed table tokens).Arisen references := by
  induction tokens generalizing table with
  | nil =>
      exact arisen
  | cons token tokens inductionHypothesis =>
      have further : ∀ reference, .argument reference ∈ tokens → reference ∈ references :=
        fun reference member => within reference (List.mem_cons_of_mem _ member)
      cases token with
      | text text =>
          exact inductionHypothesis arisen further
      | argument reference =>
          rw [declareIndexed]
          split
          · exact inductionHypothesis (arisen.declare (within reference (by simp))).1 further
          · exact inductionHypothesis arisen further

/-- The table after the first time has arisen from the placeholders of the texts. -/
theorem arisen_declaredBy
    (texts : List String) :
    (declaredBy texts).Arisen (referencesOf texts) := by
  unfold declaredBy
  have invariant :
      ∀ rest : List String, (∀ text ∈ rest, text ∈ texts) →
        ∀ table : ArgumentTable, table.Arisen (referencesOf texts) →
          (rest.foldl
            (fun table text =>
              match Placeholder.scan text with
              | .error _ => table
              | .ok tokens => declareIndexed table tokens)
            table).Arisen (referencesOf texts) := by
    intro rest
    induction rest with
    | nil =>
        intro _ table arisen
        exact arisen
    | cons text rest inductionHypothesis =>
        intro subset table arisen
        rw [List.forall_mem_cons] at subset
        refine inductionHypothesis subset.2 _ ?_
        beta_reduce
        split
        · exact arisen
        · rename_i tokens scanned
          exact arisen_declareIndexed arisen fun reference within =>
            mem_referencesOf subset.1 scanned within
  exact invariant texts (fun _ member => member) {} (ArgumentTable.arisen_empty _)

/-! ## The second time -/

/-- A piece stands for a token: text for itself, an indexed placeholder for its argument, with which
it agrees, and a placeholder by name for an argument that bears the name, or that bore it by default
until another name was stated. -/
inductive Binds
    (table : ArgumentTable) :
    Token →
    Piece →
    Prop where
  | text (text : String) :
      Binds table (.text text) (.text text)
  | indexed
      {reference : Reference}
      {index : Nat} :
      reference.index = some index →
      table.Honours reference index →
      Binds table (.argument reference) (.argument index)
  | named
      {reference : Reference}
      {name : String}
      {index : Nat}
      {argument : Placeholder.Argument} :
      reference.index = none →
      reference.name = some name →
      table.at? index = some argument →
      argument.name = name ∨ name = ArgumentTable.defaultName index ∧ argument.nameStated →
      Binds table (.argument reference) (.argument index)

theorem binds_of_declare
    {references : List Reference}
    {table : ArgumentTable}
    {reference : Reference}
    {index : Nat}
    (arisen : table.Arisen references)
    (succeeded : (table.declare reference).2 = .ok index) :
    Binds (table.declare reference).1 (.argument reference) (.argument index) := by
  cases written : reference.index with
  | some own =>
      obtain ⟨rfl, honoured⟩ :=
        ArgumentTable.honours_of_declare arisen.wellFormed written succeeded
      exact .indexed written honoured
  | none =>
      obtain ⟨same, argument, found, named⟩ :=
        ArgumentTable.named_of_declare arisen.wellFormed written succeeded
      rw [same]
      exact .named written named found (.inl rfl)

/-- What a piece stands for does not change while the table goes on. -/
theorem Binds.mono
    {references : List Reference}
    {earlier later : ArgumentTable}
    {token : Token}
    {piece : Piece}
    (binds : Binds earlier token piece)
    (arisen : earlier.Arisen references)
    (laterArisen : later.Arisen references)
    (further : later.Extends earlier) :
    Binds later token piece := by
  cases binds with
  | text text =>
      exact .text text
  | indexed written honoured =>
      exact .indexed written (honoured.mono further)
  | @named reference name index argument noIndex written found bore =>
      obtain ⟨last, lastFound, refined⟩ := further index argument found
      refine .named noIndex written lastFound ?_
      rcases bore with same | ⟨isDefault, stated⟩
      · cases stated : argument.nameStated with
        | true =>
            exact .inl ((refined.name stated).2.trans same)
        | false =>
            have isDefault : name = ArgumentTable.defaultName index := by
              rw [← same]
              exact arisen.wellFormed.named index argument found stated
            cases lastStated : last.nameStated with
            | true =>
                exact .inr ⟨isDefault, rfl⟩
            | false =>
                rw [isDefault]
                exact .inl (laterArisen.wellFormed.named index last lastFound lastStated)
      · exact .inr ⟨isDefault, (refined.name stated).1⟩

/-- Pieces that are bound one after another stand for their tokens in the final table. -/
theorem binds_of_bindTokens
    {references : List Reference}
    {table : ArgumentTable}
    {tokens : List Token}
    (arisen : table.Arisen references)
    (within : ∀ reference, .argument reference ∈ tokens → reference ∈ references) :
    (bindTokens table tokens).1.Arisen references ∧
      (bindTokens table tokens).1.Extends table ∧
      ∀ pieces, (bindTokens table tokens).2 = .ok pieces →
        List.Forall₂ (Binds (bindTokens table tokens).1) tokens pieces := by
  induction tokens generalizing table with
  | nil =>
      refine ⟨arisen, .refl table, ?_⟩
      rintro _ ⟨⟩
      exact .nil
  | cons token tokens inductionHypothesis =>
      have furtherWithin : ∀ reference, .argument reference ∈ tokens → reference ∈ references :=
        fun reference member => within reference (List.mem_cons_of_mem _ member)
      cases token with
      | text text =>
          obtain ⟨finalArisen, extended, bound⟩ := inductionHypothesis arisen furtherWithin
          refine ⟨finalArisen, extended, fun pieces succeeded => ?_⟩
          simp only [bindTokens] at succeeded ⊢
          cases outcome : (bindTokens table tokens).2 with
          | error fault =>
              rw [outcome] at succeeded
              cases succeeded
          | ok further =>
              rw [outcome] at succeeded
              cases succeeded
              exact .cons (.text text) (bound further outcome)
      | argument reference =>
          obtain ⟨changedArisen, changedExtends⟩ := arisen.declare (within reference (by simp))
          rw [bindTokens]
          split
          · rename_i changed fault declared
            rw [declared] at changedArisen changedExtends
            exact ⟨changedArisen, changedExtends, by simp⟩
          · rename_i changed index declared
            have binds := binds_of_declare arisen (congrArg Prod.snd declared)
            rw [declared] at changedArisen changedExtends binds
            obtain ⟨finalArisen, extended, bound⟩ :=
              inductionHypothesis changedArisen furtherWithin
            refine ⟨finalArisen, changedExtends.trans extended, fun pieces succeeded => ?_⟩
            simp only at succeeded ⊢
            cases outcome : (bindTokens changed tokens).2 with
            | error fault =>
                rw [outcome] at succeeded
                cases succeeded
            | ok further =>
                rw [outcome] at succeeded
                cases succeeded
                exact .cons (binds.mono changedArisen finalArisen extended)
                  (bound further outcome)

/-- What is bound to a root variant stands for its tokens. -/
def BindsVariant
    (table : ArgumentTable)
    (text : String)
    (pieces : List Piece) :
    Prop :=
  ∃ tokens, Placeholder.scan text = .ok tokens ∧ List.Forall₂ (Binds table) tokens pieces

theorem BindsVariant.mono
    {references : List Reference}
    {earlier later : ArgumentTable}
    {text : String}
    {pieces : List Piece}
    (binds : BindsVariant earlier text pieces)
    (arisen : earlier.Arisen references)
    (laterArisen : later.Arisen references)
    (further : later.Extends earlier) :
    BindsVariant later text pieces := by
  obtain ⟨tokens, scanned, bound⟩ := binds
  exact ⟨tokens, scanned, bound.imp fun token piece tokenBinds =>
    tokenBinds.mono arisen laterArisen further⟩

theorem bindsVariant_of_bindVariant
    {texts : List String}
    {table : ArgumentTable}
    {text : String}
    (arisen : table.Arisen (referencesOf texts))
    (member : text ∈ texts) :
    (bindVariant table text).1.Arisen (referencesOf texts) ∧
      (bindVariant table text).1.Extends table ∧
      ∀ pieces, (bindVariant table text).2 = .ok pieces →
        BindsVariant (bindVariant table text).1 text pieces := by
  unfold bindVariant
  split
  · exact ⟨arisen, .refl table, by simp⟩
  · rename_i tokens scanned
    obtain ⟨finalArisen, extended, bound⟩ :=
      binds_of_bindTokens arisen fun reference within => mem_referencesOf member scanned within
    exact ⟨finalArisen, extended, fun pieces succeeded =>
      ⟨tokens, scanned, bound pieces succeeded⟩⟩

/-- Every outcome that is no fault stands for its text in the final table. -/
theorem bindsVariant_of_bindVariants
    {texts rest : List String}
    {table : ArgumentTable}
    (arisen : table.Arisen (referencesOf texts))
    (subset : ∀ text ∈ rest, text ∈ texts) :
    (bindVariants table rest).1.Arisen (referencesOf texts) ∧
      (bindVariants table rest).1.Extends table ∧
      List.Forall₂
        (fun text outcome =>
          ∀ pieces, outcome = .ok pieces → BindsVariant (bindVariants table rest).1 text pieces)
        rest (bindVariants table rest).2 := by
  induction rest generalizing table with
  | nil =>
      exact ⟨arisen, .refl table, .nil⟩
  | cons text rest inductionHypothesis =>
      rw [List.forall_mem_cons] at subset
      obtain ⟨changedArisen, changedExtends, bound⟩ :=
        bindsVariant_of_bindVariant arisen subset.1
      obtain ⟨finalArisen, extended, further⟩ := inductionHypothesis changedArisen subset.2
      refine ⟨finalArisen, changedExtends.trans extended, .cons (fun pieces succeeded => ?_) further⟩
      exact (bound pieces succeeded).mono changedArisen finalArisen extended

/-! ## Root declarations without problems -/

theorem outcome_ok_of_fault?
    {outcomes : List (Except VariantFault (List Piece))}
    (noFault : outcomes.filterMap fault? = []) :
    ∀ outcome ∈ outcomes, ∃ pieces, outcome = .ok pieces := by
  intro outcome member
  have silent := List.filterMap_eq_nil_iff.mp noFault outcome member
  cases outcome with
  | ok pieces =>
      exact ⟨pieces, rfl⟩
  | error fault =>
      cases silent

theorem forall₂_rootPieces
    {texts : List String}
    {outcomes : List (Except VariantFault (List Piece))}
    {related : String → List Piece → Prop}
    (bound :
      List.Forall₂ (fun text outcome => ∀ pieces, outcome = .ok pieces → related text pieces)
        texts outcomes)
    (successful : ∀ outcome ∈ outcomes, ∃ pieces, outcome = .ok pieces) :
    List.Forall₂ related texts
      ((texts.zip outcomes).map fun (text, outcome) => rootPieces text outcome) := by
  induction bound with
  | nil =>
      exact .nil
  | @cons text outcome texts outcomes holds further inductionHypothesis =>
      rw [List.forall_mem_cons] at successful
      obtain ⟨⟨pieces, rfl⟩, furtherSuccessful⟩ := successful
      exact .cons (holds pieces rfl) (inductionHypothesis furtherSuccessful)

/-- What a root declaration without problems says about its key: its message has the right number
of variants, each of which stands for its text, and its arguments are complete. -/
structure SoundRoot
    (sourceSet : SourceSet)
    (locale : Locale)
    (property : Properties.Property)
    (entry : RootEntry) :
    Prop where
  arity : arityMessages locale (arityOf property) = []
  arisen :
    entry.arguments.Arisen (referencesOf (property.variants.map sourceSet.transformed))
  variants :
    List.Forall₂ (BindsVariant entry.arguments) (property.variants.map sourceSet.transformed)
      entry.root.variants
  complete : entry.arguments.checkComplete = .ok ()

theorem soundRoot_of_rootEntry
    {sourceSet : SourceSet}
    {locale : Locale}
    {property : Properties.Property}
    (silent : (rootEntry sourceSet locale property).2 = []) :
    SoundRoot sourceSet locale property (rootEntry sourceSet locale property).1 := by
  simp only [rootEntry, List.append_eq_nil_iff, List.map_eq_nil_iff] at silent
  obtain ⟨⟨arity, noFault⟩, complete⟩ := silent
  obtain ⟨arisen, _, bound⟩ :=
    bindsVariant_of_bindVariants
      (arisen_declaredBy (property.variants.map sourceSet.transformed)) (fun _ member => member)
  refine ⟨arity, arisen, ?_, ?_⟩
  · exact forall₂_rootPieces bound (outcome_ok_of_fault? noFault)
  · unfold completenessMessages at complete
    split at complete
    · assumption
    · cases complete

end Phrasebook.Catalog
