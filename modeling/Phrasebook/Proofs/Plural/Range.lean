import Mathlib
import Phrasebook.Plural.Rule

namespace Phrasebook.Plural.Rule

/-!
# Indices that are no plural form

Whether an index is a plural form is asked twice: a quantity has a form if its index converts to a
number below the count of forms, and a probe finds an index at fault by its sign and by a comparison
of unsigned words. The two agree as long as the count of forms is a 64-bit word, however large.
-/

theorem forms_of_compile
    {locale source : String}
    {forms : Nat}
    {rule : Rule}
    (compiled : compile locale forms source = .ok rule) :
    rule.forms = forms := by
  unfold compile at compiled
  split at compiled
  · cases compiled
  · split at compiled
    · cases compiled
    · cases compiled
      rfl

variable {rule : Rule}

/-! ## The two tests -/

theorem formIndex?_eq_none_iff
    {quantity : Int64} :
    rule.formIndex? quantity = none ↔
      ¬(0 ≤ (rule.evaluate quantity).toInt ∧ (rule.evaluate quantity).toInt < rule.forms) := by
  rw [formIndex?]
  simp

/-- An index that is not negative is the same number as an unsigned word. -/
theorem toNat_toUInt64_of_nonneg
    {index : Int64}
    (nonnegative : ¬index < 0) :
    0 ≤ index.toInt ∧ (index.toUInt64.toNat : Int) = index.toInt := by
  have atLeastZero : (0 : Int64) ≤ index := Int64.not_lt.mp nonnegative
  have same : index.toUInt64.toNat = index.toInt.toNat := Int64.toNat_toUInt64_of_le atLeastZero
  have bound : (0 : Int64).toInt ≤ index.toInt := Int64.le_iff_toInt_le.mp atLeastZero
  have zero : (0 : Int64).toInt = 0 := rfl
  omega

/-- An index that passes the test of a probe is a plural form, whatever the count of forms. -/
theorem inRange_of_isOutOfRange_eq_false
    {index : Int64}
    (inside : rule.isOutOfRange index = false) :
    0 ≤ index.toInt ∧ index.toInt < rule.forms := by
  simp only [isOutOfRange, Bool.or_eq_false_iff, decide_eq_false_iff_not] at inside
  obtain ⟨nonnegative, below⟩ := inside
  obtain ⟨atLeastZero, same⟩ := toNat_toUInt64_of_nonneg nonnegative
  rw [UInt64.not_le, UInt64.lt_iff_toNat_lt, UInt64.toNat_ofNat'] at below
  have noMore : rule.forms % 2 ^ 64 ≤ rule.forms := Nat.mod_le _ _
  omega

/-- A plural form passes the test of a probe if the count of forms is a word. -/
theorem isOutOfRange_eq_false_of_inRange
    {index : Int64}
    (isWord : rule.forms < UInt64.size)
    (atLeastZero : 0 ≤ index.toInt)
    (below : index.toInt < rule.forms) :
    rule.isOutOfRange index = false := by
  have nonnegative : ¬index < 0 := by
    rw [Int64.lt_iff_toInt_lt]
    exact Int.not_lt.mpr atLeastZero
  have same := (toNat_toUInt64_of_nonneg nonnegative).2
  have forms : (UInt64.ofNat rule.forms).toNat = rule.forms := UInt64.toNat_ofNat_of_lt isWord
  simp only [isOutOfRange, Bool.or_eq_false_iff, decide_eq_false_iff_not]
  refine ⟨nonnegative, ?_⟩
  rw [UInt64.not_le, UInt64.lt_iff_toNat_lt, forms]
  omega

/-- The two tests agree at every quantity. -/
theorem formIndex?_eq_none_iff_isOutOfRange
    (isWord : rule.forms < UInt64.size)
    (quantity : Int64) :
    rule.formIndex? quantity = none ↔ rule.isOutOfRange (rule.evaluate quantity) = true := by
  rw [formIndex?_eq_none_iff, ← Bool.not_eq_false]
  exact not_congr ⟨fun inRange => isOutOfRange_eq_false_of_inRange isWord inRange.1 inRange.2,
    inRange_of_isOutOfRange_eq_false⟩

/-! ## Probing -/

/-- A probe that finds nothing has found every index in range. -/
theorem firstOutOfRange?_eq_none_iff :
    rule.firstOutOfRange? = none ↔
      ∀ quantity ∈ sampleQuantities, rule.isOutOfRange (rule.evaluate quantity) = false := by
  rw [firstOutOfRange?, List.find?_eq_none, List.forall_mem_map]
  simp only [Bool.not_eq_true]

/-- A probe finds the first quantity whose index is at fault, and the index. -/
theorem firstOutOfRange?_eq_some_iff
    {quantity index : Int64} :
    rule.firstOutOfRange? = some (quantity, index) ↔
      index = rule.evaluate quantity ∧
        ∃ before after,
          sampleQuantities = before ++ quantity :: after ∧
            rule.isOutOfRange (rule.evaluate quantity) = true ∧
            ∀ earlier ∈ before, rule.isOutOfRange (rule.evaluate earlier) = false := by
  rw [firstOutOfRange?, List.find?_map, Option.map_eq_some_iff]
  simp only [List.find?_eq_some_iff_append, Function.comp_apply, Prod.mk.injEq, Bool.not_eq_true']
  constructor
  · rintro ⟨_, ⟨atFault, before, after, shape, inside⟩, rfl, rfl⟩
    exact ⟨rfl, before, after, shape, atFault, inside⟩
  · rintro ⟨rfl, before, after, shape, atFault, inside⟩
    exact ⟨quantity, ⟨atFault, before, after, shape, inside⟩, rfl, rfl⟩

/-- Whether the probes of a rule find what has no plural form: any quantity has none just if its
index is at fault, and the first probed quantity without one is found, with its index. -/
structure FindsFirstWithoutForm
    (rule : Rule) :
    Prop where
  agree :
    ∀ quantity,
      rule.formIndex? quantity = none ↔ rule.isOutOfRange (rule.evaluate quantity) = true
  silent :
    rule.firstOutOfRange? = none ↔
      ∀ quantity ∈ sampleQuantities, (rule.formIndex? quantity).isSome
  first :
    ∀ quantity index,
      rule.firstOutOfRange? = some (quantity, index) ↔
        index = rule.evaluate quantity ∧
          ∃ before after,
            sampleQuantities = before ++ quantity :: after ∧
              rule.formIndex? quantity = none ∧
              ∀ earlier ∈ before, (rule.formIndex? earlier).isSome

/-- The probes of a compiled rule find what has no plural form, whatever word counts the forms. -/
theorem findsFirstWithoutForm_of_compile
    {locale source : String}
    {forms : Nat}
    (compiled : compile locale forms source = .ok rule)
    (isWord : forms < UInt64.size) :
    rule.FindsFirstWithoutForm := by
  rw [← forms_of_compile compiled] at isWord
  have agree := formIndex?_eq_none_iff_isOutOfRange isWord
  have inside (quantity : Int64) :
      rule.isOutOfRange (rule.evaluate quantity) = false ↔ (rule.formIndex? quantity).isSome := by
    rw [← Bool.not_eq_true, ← agree, Option.isSome_iff_ne_none]
  refine ⟨agree, ?_, fun quantity index => ?_⟩
  · simp only [firstOutOfRange?_eq_none_iff, inside]
  · simp only [firstOutOfRange?_eq_some_iff, inside, agree]

/-- More forms than there are nonnegative indices, and negative ones at the least quantities. -/
theorem findsFirstWithoutForm_of_largest_word :
    let rule : Rule :=
      ⟨"xx", 18446744073709551615, "n % 10",
        .binary 0 .remainder (.variable 0 "n") (.literal 4 10), .integer⟩
    compile "xx" 18446744073709551615 "n % 10" = .ok rule ∧
      18446744073709551615 < UInt64.size ∧
      rule.FindsFirstWithoutForm := by
  intro rule
  have compiled : compile "xx" 18446744073709551615 "n % 10" = .ok rule := by cbv
  exact ⟨compiled, by decide, findsFirstWithoutForm_of_compile compiled (by decide)⟩

end Phrasebook.Plural.Rule
