import Phrasebook.Proofs.Code.BundleModule

namespace Phrasebook.Code

open Generated

/-!
# Acceptance of modules of bundles

Not every module of a valid bundle is accepted. The generated type may have the name of a standard
type that a signature mentions, an argument the name of a variant of the prelude, and a rule may
compare literals that have no room in 32 bits. Nothing else is refused.
-/

/-- What the code of a bundle takes to be accepted. -/
structure IsCompilable
    (bundle : Bundle) :
    Prop where
  /-- The generated type takes the place of no standard type that the code mentions; only messages
  mention the type of their texts. -/
  type :
    bundle.target.typeName ∈ standardTypes →
      bundle.target.typeName = "String" ∧ bundle.catalog.entries = []
  arguments : ∀ entry ∈ bundle.catalog.entries, KeepsPrelude entry
  rules : ∀ rule ∈ bundle.rules, rule.literalsFit

/-! ## The functions of a module -/

theorem allFunctions_moduleOf
    (bundle : Bundle)
    (root : Locale) :
    (moduleOf bundle root).allFunctions =
      (tagTextMethod bundle.locales :: membersOf bundle root) ++
        (bundle.locales.zip bundle.rules).map fun (locale, rule) =>
          pluralFunctionOf locale rule := by
  have plural (pairs : List (Locale × Plural.Rule)) :
      (pairs.flatMap fun (locale, rule) => [pluralFunctionOf locale rule]) =
        pairs.map fun (locale, rule) => pluralFunctionOf locale rule :=
    List.map_eq_flatMap.symm
  simp [moduleOf, Module.allFunctions, List.flatMap_map, plural]

/-- What holds of all functions of a module, told by the kind of the function. -/
theorem forall_mem_allFunctions_moduleOf
    {bundle : Bundle}
    {root : Locale}
    {property : Function → Prop} :
    (∀ function ∈ (moduleOf bundle root).allFunctions, property function) ↔
      (property (tagTextMethod bundle.locales) ∧
          (∀ method ∈ valueMethods, property method) ∧
          property (pluralFormMethod bundle.locales)) ∧
        (∀ pair ∈ accessorPairs bundle,
          property (methodOf bundle.locales root pair.1 pair.2)) ∧
        ∀ pair ∈ bundle.locales.zip bundle.rules,
          property (pluralFunctionOf pair.1 pair.2) := by
  simp only [allFunctions_moduleOf, membersOf, List.forall_mem_append, List.forall_mem_cons,
    List.forall_mem_map]
  tauto

namespace IsRenderable

variable {bundle : Bundle} {root : Locale}

/-- Each entry has an accessor. -/
theorem fst_accessorPairs
    (renderable : IsRenderable bundle root) :
    (accessorPairs bundle).map Prod.fst = bundle.catalog.entries :=
  List.map_fst_zip (Nat.le_of_eq renderable.aligned.symm)

theorem snd_accessorPairs
    (renderable : IsRenderable bundle root) :
    (accessorPairs bundle).map Prod.snd = bundle.accessors :=
  List.map_snd_zip (Nat.le_of_eq renderable.aligned)

theorem fst_rulePairs
    (renderable : IsRenderable bundle root) :
    (bundle.locales.zip bundle.rules).map Prod.fst = bundle.locales :=
  List.map_fst_zip (Nat.le_of_eq renderable.rules.length_eq)

/-- Each rule has a plural function. -/
theorem snd_rulePairs
    (renderable : IsRenderable bundle root) :
    (bundle.locales.zip bundle.rules).map Prod.snd = bundle.rules :=
  List.map_snd_zip (Nat.le_of_eq renderable.rules.length_eq.symm)

/-- The rule of a locale is one that compiles. -/
theorem wellFormed_rule
    {pair : Locale × Plural.Rule}
    (renderable : IsRenderable bundle root)
    (member : pair ∈ bundle.locales.zip bundle.rules) :
    Plural.HasType pair.2.expression pair.2.type ∧ pair.2.expression.LiteralsNonnegative :=
  Plural.Rule.wellFormed_of_compile
    ((List.forall₂_iff_zip.mp renderable.rules).2 member).compiled

end IsRenderable

/-- The functions of a module are accepted by themselves just if the arguments of its accessors and
the literals of its plural functions are. -/
theorem forall_isAccepted_moduleOf_iff
    {bundle : Bundle}
    {root : Locale}
    (renderable : IsRenderable bundle root) :
    (∀ function ∈ (moduleOf bundle root).allFunctions, function.isAccepted) ↔
      (∀ entry ∈ bundle.catalog.entries, KeepsPrelude entry) ∧
        ∀ rule ∈ bundle.rules, rule.literalsFit := by
  have fixedAccepted :
      (tagTextMethod bundle.locales).isAccepted ∧
        (∀ method ∈ valueMethods, method.isAccepted) ∧
        (pluralFormMethod bundle.locales).isAccepted :=
    ⟨isAccepted_tagTextMethod bundle.locales, isAccepted_of_mem_valueMethods,
      isAccepted_pluralFormMethod bundle.locales⟩
  have accessors :
      (∀ pair ∈ accessorPairs bundle,
          (methodOf bundle.locales root pair.1 pair.2).isAccepted) ↔
        ∀ entry ∈ bundle.catalog.entries, KeepsPrelude entry := by
    rw [← renderable.fst_accessorPairs, List.forall_mem_map]
    refine forall₂_congr fun pair member => ?_
    have wellFormed := renderable.entries pair.1 (List.of_mem_zip member).1
    exact isAccepted_methodOf_iff bundle.locales root pair.2 (nodup_names_declaredOf wellFormed)
  have functions :
      (∀ pair ∈ bundle.locales.zip bundle.rules, (pluralFunctionOf pair.1 pair.2).isAccepted) ↔
        ∀ rule ∈ bundle.rules, rule.literalsFit := by
    conv_rhs => rw [← renderable.snd_rulePairs, List.forall_mem_map]
    refine forall₂_congr fun pair member => ?_
    obtain ⟨typed, nonnegative⟩ := renderable.wellFormed_rule member
    rw [isAccepted_pluralFunctionOf pair.1 typed nonnegative]
  rw [forall_mem_allFunctions_moduleOf, and_iff_right fixedAccepted, accessors, functions]

/-! ## Standard types -/

/-- The module of a bundle keeps a function its standard types unless the function mentions one that
the generated type takes the place of. -/
theorem keepsStandardTypes_moduleOf_iff
    {bundle : Bundle}
    {root : Locale}
    {function : Function} :
    (moduleOf bundle root).keepsStandardTypes function ↔
      (bundle.target.typeName ∈ standardTypes →
        bundle.target.typeName ∉ function.typeNames) := by
  have declared :
      (moduleOf bundle root).declaredTypes =
        [Validation.localeTagType, bundle.target.typeName] := by
    simp [moduleOf, Module.declaredTypes, List.filterMap_map]
  have notStandard : Validation.localeTagType ∉ standardTypes := by decide
  have kept :
      (moduleOf bundle root).keepsStandardTypes function ↔
        ∀ name ∈ function.typeNames,
          name ∈ standardTypes → name ∉ [Validation.localeTagType, bundle.target.typeName] := by
    rw [Module.keepsStandardTypes, declared]
    simp [imp_iff_not_or]
  rw [kept]
  constructor
  · intro apart standard mentioned
    exact apart _ mentioned standard (List.mem_cons_of_mem _ (List.mem_singleton_self _))
  · intro unmentioned name mentioned standard isDeclared
    rcases List.mem_cons.mp isDeclared with rfl | isType
    · exact notStandard standard
    · rw [List.mem_singleton] at isType
      subst isType
      exact unmentioned standard mentioned

/-- Without messages a module mentions no type of texts to own. -/
theorem string_not_mem_typeNames_moduleOf
    {bundle : Bundle}
    {root : Locale}
    (renderable : IsRenderable bundle root)
    (empty : bundle.catalog.entries = []) :
    ∀ function ∈ (moduleOf bundle root).allFunctions, "String" ∉ function.typeNames := by
  rw [forall_mem_allFunctions_moduleOf]
  refine ⟨⟨fun mentioned => ?_, fun method member mentioned => ?_, fun mentioned => ?_⟩,
    fun pair member => ?_, fun pair member mentioned => ?_⟩
  · exact absurd (typeNames_tagTextMethod bundle.locales _ mentioned) (by decide)
  · exact absurd (typeNames_of_mem_valueMethods method member _ mentioned) (by decide)
  · exact absurd (typeNames_pluralFormMethod bundle.locales _ mentioned) (by decide)
  · rw [accessorPairs, empty] at member
    cases member
  · have nonnegative := (renderable.wellFormed_rule member).2
    exact absurd (typeNames_pluralFunctionOf pair.1 nonnegative _ mentioned) (by decide)

/-- The functions of a module keep their standard types just if the generated type takes the place
of none that they mention. -/
theorem forall_keepsStandardTypes_moduleOf_iff
    {bundle : Bundle}
    {root : Locale}
    (renderable : IsRenderable bundle root) :
    (∀ function ∈ (moduleOf bundle root).allFunctions,
        (moduleOf bundle root).keepsStandardTypes function) ↔
      (bundle.target.typeName ∈ standardTypes →
        bundle.target.typeName = "String" ∧ bundle.catalog.entries = []) := by
  simp only [keepsStandardTypes_moduleOf_iff]
  constructor
  · intro unmentioned standard
    have apart := fun function member => unmentioned function member standard
    obtain ⟨⟨tagText, _, pluralForm⟩, accessors, _⟩ :=
      forall_mem_allFunctions_moduleOf.mp apart
    rcases List.mem_cons.mp standard with isQuantity | isText
    · refine absurd ?_ pluralForm
      rw [isQuantity]
      exact List.mem_cons_self
    rcases List.mem_cons.mp isText with isBorrowed | isOwned
    · refine absurd ?_ tagText
      rw [isBorrowed]
      exact List.mem_cons_self
    · rw [List.mem_singleton] at isOwned
      refine ⟨isOwned, List.eq_nil_iff_forall_not_mem.mpr fun entry member => ?_⟩
      rw [← renderable.fst_accessorPairs] at member
      obtain ⟨pair, isPair, rfl⟩ := List.mem_map.mp member
      refine absurd ?_ (accessors pair isPair)
      rw [isOwned, Function.typeNames]
      exact List.mem_append_left _ (List.mem_append_right _ (List.mem_singleton_self _))
  · intro onlyOwned function member standard
    obtain ⟨isOwned, empty⟩ := onlyOwned standard
    rw [isOwned]
    exact string_not_mem_typeNames_moduleOf renderable empty function member

/-- The module of a bundle is accepted just if the bundle is one that can be compiled. -/
theorem isAccepted_moduleOf_iff
    {bundle : Bundle}
    {root : Locale}
    (renderable : IsRenderable bundle root) :
    (moduleOf bundle root).isAccepted ↔ IsCompilable bundle := by
  have accepted := forall_isAccepted_moduleOf_iff renderable
  have kept := forall_keepsStandardTypes_moduleOf_iff renderable
  rw [Module.isAccepted, List.all_eq_true]
  constructor
  · intro all
    simp only [Bool.and_eq_true] at all
    obtain ⟨arguments, rules⟩ := accepted.mp fun function member => (all function member).1
    exact ⟨kept.mp fun function member => (all function member).2, arguments, rules⟩
  · intro compilable function member
    rw [Bool.and_eq_true]
    exact ⟨accepted.mpr ⟨compilable.arguments, compilable.rules⟩ function member,
      kept.mpr compilable.type function member⟩

end Phrasebook.Code
