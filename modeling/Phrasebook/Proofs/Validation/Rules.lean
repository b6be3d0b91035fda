import Mathlib.Data.List.Forall2
import Phrasebook.Proofs.Plural.Range
import Phrasebook.Validation.Rules

namespace Phrasebook.Validation

/-!
# What checked plural rules guarantee

There is one rule for each locale, in the same place. It is the rule that the locale states, and
it stays within the plural forms of the locale at every probed quantity.
-/

/-- A rule is the one that a locale states, and stays within its plural forms where it is
probed. -/
structure IsRuleOf
    (locale : Locale)
    (rule : Plural.Rule) :
    Prop where
  compiled :
    Plural.Rule.compile locale.tag locale.pluralForms locale.pluralSource = .ok rule
  inRange :
    ∀ quantity ∈ Plural.Rule.sampleQuantities,
      0 ≤ (rule.evaluate quantity).toInt ∧ (rule.evaluate quantity).toInt < locale.pluralForms

theorem rule_of_silent
    {locale : Locale}
    (forms : 0 < locale.pluralForms)
    (silent : ruleDiagnostics locale = []) :
    ∃ rule, ruleOf locale = .ok rule ∧ IsRuleOf locale rule := by
  unfold ruleDiagnostics at silent
  split at silent
  · cases silent
  · rename_i rule compiled
    unfold rangeDiagnostics at silent
    rw [if_neg (Nat.ne_of_gt forms)] at silent
    split at silent
    · rename_i inside
      refine ⟨rule, compiled, compiled, fun quantity isProbed => ?_⟩
      rw [← Plural.Rule.forms_of_compile compiled]
      exact Plural.Rule.inRange_of_isOutOfRange_eq_false
        (Plural.Rule.firstOutOfRange?_eq_none_iff.mp inside quantity isProbed)
    · cases silent

/-- The rules of locales without problems are aligned with them. -/
theorem rules_of_silent
    {locales : List Locale}
    {rules : List Plural.Rule}
    (forms : ∀ locale ∈ locales, 0 < locale.pluralForms)
    (silent : locales.flatMap ruleDiagnostics = [])
    (compiled : rules? locales = some rules) :
    List.Forall₂ IsRuleOf locales rules := by
  induction locales generalizing rules with
  | nil =>
      cases compiled
      exact .nil
  | cons locale rest inductionHypothesis =>
      rw [List.forall_mem_cons] at forms
      rw [List.flatMap_cons, List.append_eq_nil_iff] at silent
      obtain ⟨rule, ruleCompiled, isRule⟩ := rule_of_silent forms.1 silent.1
      rw [rules?, ruleCompiled] at compiled
      obtain ⟨further, furtherCompiled, rfl⟩ := Option.map_eq_some_iff.mp compiled
      exact .cons isRule (inductionHypothesis forms.2 silent.2 furtherCompiled)

/-- Where no rule has a problem, all of them can be compiled. -/
theorem exists_rules_of_silent
    {locales : List Locale}
    (silent : locales.flatMap ruleDiagnostics = []) :
    ∃ rules, rules? locales = some rules := by
  induction locales with
  | nil =>
      exact ⟨[], rfl⟩
  | cons locale locales inductionHypothesis =>
      rw [List.flatMap_cons, List.append_eq_nil_iff] at silent
      obtain ⟨here, further⟩ := silent
      unfold ruleDiagnostics at here
      split at here
      · cases here
      · rename_i rule compiled
        obtain ⟨rules, furtherCompiled⟩ := inductionHypothesis further
        rw [rules?, compiled, furtherCompiled]
        exact ⟨rule :: rules, rfl⟩

end Phrasebook.Validation
