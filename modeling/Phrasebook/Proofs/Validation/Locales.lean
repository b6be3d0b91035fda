import Phrasebook.Catalog
import Phrasebook.Validation.Locales

namespace Phrasebook.Validation

/-!
# What checked locales guarantee

Locales without problems have plural forms, well-formed tags and distinct generated names, and the
root locale among them has one place only.
-/

/-- Locales that pass every check of their own. -/
structure WellFormedLocales
    (locales : List Locale) :
    Prop where
  forms : ∀ locale ∈ locales, 0 < locale.pluralForms
  tags : ∀ locale ∈ locales, locale.isRoot ∨ LanguageTag.isValid locale.tag.toList
  variants : locales.Pairwise (fun first second => first.variantName ≠ second.variantName)

theorem pluralForms_pos_of_silent
    {locale : Locale}
    (silent : formDiagnostics locale = []) :
    0 < locale.pluralForms := by
  unfold formDiagnostics at silent
  split at silent
  · cases silent
  · rename_i notZero
    exact Nat.pos_of_ne_zero notZero

theorem variantName_ne_of_silent
    {earlier : List Locale}
    {locale : Locale}
    (silent : variantDiagnostics earlier locale = []) :
    ∀ other ∈ earlier, other.variantName ≠ locale.variantName := by
  unfold variantDiagnostics at silent
  split at silent
  · rename_i unused
    intro other member same
    exact List.find?_eq_none.mp unused other member (beq_iff_eq.mpr same)
  · cases silent

theorem isValid_of_silent
    {locale : Locale}
    (silent : tagDiagnostics locale = []) :
    locale.isRoot ∨ LanguageTag.isValid locale.tag.toList := by
  unfold tagDiagnostics at silent
  split at silent
  · rename_i valid
    exact Bool.or_eq_true_iff.mp valid
  · cases silent

theorem wellFormedLocales_after
    {earlier locales : List Locale}
    (silent : localeDiagnosticsAfter earlier locales = []) :
    WellFormedLocales locales ∧
      ∀ other ∈ earlier, ∀ locale ∈ locales, other.variantName ≠ locale.variantName := by
  induction locales generalizing earlier with
  | nil =>
      exact ⟨⟨by simp, by simp, .nil⟩, by simp⟩
  | cons locale rest inductionHypothesis =>
      simp only [localeDiagnosticsAfter, List.append_eq_nil_iff] at silent
      obtain ⟨⟨⟨⟨forms, variants⟩, tags⟩, _⟩, further⟩ := silent
      obtain ⟨wellFormed, apart⟩ := inductionHypothesis further
      have fresh := variantName_ne_of_silent variants
      refine ⟨⟨?_, ?_, ?_⟩, fun other member => ?_⟩
      · exact List.forall_mem_cons.mpr ⟨pluralForms_pos_of_silent forms, wellFormed.forms⟩
      · exact List.forall_mem_cons.mpr ⟨isValid_of_silent tags, wellFormed.tags⟩
      · exact List.pairwise_cons.mpr ⟨apart locale List.mem_cons_self, wellFormed.variants⟩
      · exact List.forall_mem_cons.mpr
          ⟨fresh other member, apart other (List.mem_cons_of_mem _ member)⟩

theorem wellFormedLocales_of_silent
    {sourceSet : SourceSet}
    (silent : localeDiagnostics sourceSet = []) :
    WellFormedLocales sourceSet.locales := by
  unfold localeDiagnostics at silent
  exact (wellFormedLocales_after (List.append_eq_nil_iff.mp silent).1).1

/-- A place is that of the only root locale. -/
structure IsRootIndex
    (locales : List Locale)
    (index : Nat)
    (root : Locale) :
    Prop where
  placed : locales[index]? = some root
  isRoot : root.isRoot
  only : ∀ other locale, locales[other]? = some locale → locale.isRoot → other = index

/-- The root locale of a source set with exactly one stands at its root index. -/
theorem isRootIndex_of_root?
    {sourceSet : SourceSet}
    {root : Locale}
    (single : sourceSet.root? = some root) :
    IsRootIndex sourceSet.locales (Catalog.rootIndexOf sourceSet) root := by
  unfold SourceSet.root? SourceSet.roots at single
  split at single
  · rename_i found roots
    cases single
    obtain ⟨before, after, shape, noneBefore, isRoot, rest⟩ := List.filter_eq_cons_iff.mp roots
    have noneAfter := List.filter_eq_nil_iff.mp rest
    have index : Catalog.rootIndexOf sourceSet = before.length := by
      unfold Catalog.rootIndexOf
      rw [shape, List.findIdx?_append, List.findIdx?_eq_none_iff.mpr (by simpa using noneBefore)]
      simp [List.findIdx?_cons, isRoot]
    rw [index, shape]
    refine ⟨by simp, isRoot, fun other locale found otherRoot => ?_⟩
    rcases Nat.lt_trichotomy other before.length with inside | same | beyond
    · rw [List.getElem?_append_left inside] at found
      exact absurd otherRoot (noneBefore locale (List.mem_of_getElem? found))
    · exact same
    · rw [List.getElem?_append_right (Nat.le_of_lt beyond)] at found
      obtain ⟨offset, same⟩ : ∃ offset, other - before.length = offset + 1 :=
        ⟨other - before.length - 1, by omega⟩
      rw [same, List.getElem?_cons_succ] at found
      exact absurd otherRoot (noneAfter locale (List.mem_of_getElem? found))
  · cases single

end Phrasebook.Validation
