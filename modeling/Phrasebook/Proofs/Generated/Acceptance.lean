import Mathlib.Data.Int.DivMod
import Phrasebook.Proofs.Generated.Execution
import Phrasebook.Proofs.Result

namespace Phrasebook.Generated

/-!
# Terms that are accepted

A run of a term takes every integer for a word of 64 bits, and the functions of the standard library
for what they are called. Not every term is accepted with that meaning. Integers that are compared,
divided or chosen between are of one type, which is that of 64 bits if one of them is a variable or
comes from a call; where all of them are literals they have 32 bits, and a literal that is greater
than those hold is refused. A type whose function is called must not be declared anew.
-/

/-! ## Widths -/

/-- Whether a word is one of 32 bits. -/
def isShort
    (value : Int64) :
    Bool :=
  Int32.minValue.toInt ≤ value.toInt ∧ value.toInt ≤ Int32.maxValue.toInt

theorem isShort_iff
    {value : Int64} :
    isShort value ↔ -2147483648 ≤ value.toInt ∧ value.toInt ≤ 2147483647 := by
  have least : Int32.minValue.toInt = -2147483648 := by decide
  have greatest : Int32.maxValue.toInt = 2147483647 := by decide
  simp [isShort, least, greatest]

namespace Operator

/-- Whether the operands of an operator are of one type. -/
def unites :
    Operator →
    Bool
  | .both => false
  | .either => false
  | _ => true

/-- Whether the value of an operator is of the type of its operands. -/
def keepsType :
    Operator →
    Bool
  | .remainder => true
  | _ => false

end Operator

mutual

/-- Whether a term by itself makes the integers that it is joined with have 64 bits. -/
def Term.fixesWidth :
    Term →
    Bool
  | .path _ => true
  | .call _ _ => true
  | .field _ _ => true
  | .method _ _ _ => true
  | .negation operand => operand.fixesWidth
  | .binary operator left right =>
      operator.keepsType && (left.fixesWidth || right.fixesWidth)
  | .conditional _ whenTrue whenFalse => whenTrue.fixesWidth || whenFalse.fixesWidth
  | .selection _ arms => armsFixWidth arms
  | _ => false

/-- Whether an arm of a selection makes the integers of the other arms have 64 bits. -/
def armsFixWidth :
    List (Pattern × Term) →
    Bool
  | [] => false
  | (_, term) :: arms => term.fixesWidth || armsFixWidth arms

end

mutual

/-- Whether every literal of a term is one of its type, given whether its surroundings make it have
64 bits. What is passed to a function or a method has the type that is declared there. -/
def Term.fitsWidth
    (fixed : Bool) :
    Term →
    Bool
  | .number value => fixed || isShort value
  | .call _ arguments => allFitWidth true arguments
  | .invocation _ arguments => allFitWidth false arguments
  | .field record _ => record.fitsWidth false
  | .method record _ arguments => record.fitsWidth false && allFitWidth true arguments
  | .negation operand => operand.fitsWidth fixed
  | .binary operator left right =>
      let joined :=
        operator.unites &&
          (operator.keepsType && fixed || left.fixesWidth || right.fixesWidth)
      left.fitsWidth joined && right.fitsWidth joined
  | .conditional condition whenTrue whenFalse =>
      let joined := fixed || whenTrue.fixesWidth || whenFalse.fixesWidth
      condition.fitsWidth false && (whenTrue.fitsWidth joined && whenFalse.fitsWidth joined)
  | .selection subject arms =>
      subject.fitsWidth false && armsFitWidth (fixed || armsFixWidth arms) arms
  | _ => true

/-- Whether every literal of some terms is one of its type. -/
def allFitWidth
    (fixed : Bool) :
    List Term →
    Bool
  | [] => true
  | term :: terms => term.fitsWidth fixed && allFitWidth fixed terms

/-- Whether every literal of the arms of a selection is one of its type. -/
def armsFitWidth
    (fixed : Bool) :
    List (Pattern × Term) →
    Bool
  | [] => true
  | (_, term) :: arms => term.fitsWidth fixed && armsFitWidth fixed arms

end

theorem armsFitWidth_iff
    {fixed : Bool}
    {arms : List (Pattern × Term)} :
    armsFitWidth fixed arms ↔ ∀ arm ∈ arms, arm.2.fitsWidth fixed := by
  induction arms with
  | nil =>
      simp [armsFitWidth]
  | cons arm arms inductionHypothesis =>
      rw [armsFitWidth, Bool.and_eq_true, inductionHypothesis, List.forall_mem_cons]

theorem Term.fitsWidth_selection
    {subject : Term}
    {arms : List (Pattern × Term)}
    (subjectFits : subject.fitsWidth false)
    (armsFit : ∀ arm ∈ arms, ∀ fixed, arm.2.fitsWidth fixed)
    (fixed : Bool) :
    (Term.selection subject arms).fitsWidth fixed := by
  rw [fitsWidth, Bool.and_eq_true, armsFitWidth_iff]
  exact ⟨subjectFits, fun arm member => armsFit arm member _⟩

/-! ## Called types -/

/-- The type that a path leads through. -/
def typeInPath :
    List String →
    List String
  | type :: _ :: _ => [type]
  | _ => []

mutual

/-- The types whose functions a term calls. -/
def Term.calledTypes :
    Term →
    List String
  | .call function arguments => typeInPath function ++ calledInAll arguments
  | .invocation _ arguments => calledInAll arguments
  | .field record _ => record.calledTypes
  | .method record _ arguments => record.calledTypes ++ calledInAll arguments
  | .negation operand => operand.calledTypes
  | .binary _ left right => left.calledTypes ++ right.calledTypes
  | .conditional condition whenTrue whenFalse =>
      condition.calledTypes ++ whenTrue.calledTypes ++ whenFalse.calledTypes
  | .selection subject arms => subject.calledTypes ++ calledInArms arms
  | _ => []

/-- The types whose functions some terms call. -/
def calledInAll :
    List Term →
    List String
  | [] => []
  | term :: terms => term.calledTypes ++ calledInAll terms

/-- The types whose functions the arms of a selection call. -/
def calledInArms :
    List (Pattern × Term) →
    List String
  | [] => []
  | (_, term) :: arms => term.calledTypes ++ calledInArms arms

end

theorem calledInArms_eq_nil
    {arms : List (Pattern × Term)}
    (armsCall : ∀ arm ∈ arms, arm.2.calledTypes = []) :
    calledInArms arms = [] := by
  induction arms with
  | nil =>
      rfl
  | cons arm arms inductionHypothesis =>
      rw [List.forall_mem_cons] at armsCall
      rw [calledInArms, armsCall.1, inductionHypothesis armsCall.2]
      rfl

theorem Term.calledTypes_selection
    {subject : Term}
    {arms : List (Pattern × Term)}
    (subjectCalls : subject.calledTypes = [])
    (armsCall : ∀ arm ∈ arms, arm.2.calledTypes = []) :
    (Term.selection subject arms).calledTypes = [] := by
  rw [calledTypes, subjectCalls, calledInArms_eq_nil armsCall]
  rfl

/-! ## Integers of 32 bits -/

theorem isShort_remainder
    {dividend : Int64}
    (short : isShort dividend)
    (divisor : Int64) :
    isShort (dividend % divisor) := by
  rw [isShort_iff] at short ⊢
  have remainder : (dividend % divisor).toInt = dividend.toInt.tmod divisor.toInt :=
    Int64.toInt_mod dividend divisor
  have magnitude : (dividend % divisor).toInt.natAbs ≤ dividend.toInt.natAbs := by
    rw [remainder, Int.natAbs_tmod]
    exact Nat.mod_le _ _
  have above : 0 ≤ dividend.toInt → 0 ≤ (dividend % divisor).toInt := by
    rw [remainder]
    exact Int.tmod_nonneg _
  have below : dividend.toInt ≤ 0 → (dividend % divisor).toInt ≤ 0 := by
    intro nonpositive
    have opposite := Int.tmod_nonneg divisor.toInt (neg_nonneg.mpr nonpositive)
    rw [Int.neg_tmod] at opposite
    omega
  omega

theorem isShort_complement
    {value : Int64}
    (short : isShort value) :
    isShort (~~~value) := by
  rw [isShort_iff] at short ⊢
  have unbounded : (-value.toInt - 1).bmod (2 ^ 64) = -value.toInt - 1 :=
    Int.bmod_eq_of_le (by omega) (by omega)
  rw [Int64.toInt_not, unbounded]
  omega

namespace Operator

/-- Only a remainder is an integer. -/
theorem exists_of_apply_eq_integer
    {operator : Operator}
    {left right : Value}
    {value : Int64}
    (applied : operator.apply left right = .ok (.integer value)) :
    operator = .remainder ∧
      ∃ dividend divisor, left = .integer dividend ∧ value = dividend % divisor := by
  unfold apply at applied
  split at applied
  · rename_i dividend divisor
    split at applied
    · cases applied
    · cases applied
      exact ⟨rfl, dividend, divisor, rfl, rfl⟩
  all_goals cases applied

theorem exists_of_conclude_eq_integer
    {operator : Operator}
    {left right : Value}
    {value : Int64}
    (concluded : operator.conclude left right = .ok (.integer value)) :
    operator = .remainder ∧
      ∃ dividend divisor, left = .integer dividend ∧ value = dividend % divisor := by
  unfold conclude at concluded
  split at concluded
  case h_5 => exact exists_of_apply_eq_integer concluded
  all_goals cases concluded

theorem exists_truth_of_shortcut?
    {operator : Operator}
    {left value : Value}
    (known : operator.shortcut? left = some value) :
    ∃ truth, value = .truth truth := by
  unfold shortcut? at known
  split at known
  · cases known
    exact ⟨false, rfl⟩
  · cases known
    exact ⟨true, rfl⟩
  · cases known

end Operator

mutual

/-- An integer that nothing in an accepted term makes have 64 bits is one of 32 bits, so its type
has room for it. -/
theorem Term.isShort_of_run
    {scope : Scope}
    {value : Int64} :
    (term : Term) →
    term.fixesWidth = false →
    term.fitsWidth false →
    term.run scope = .ok (.integer value) →
    isShort value
  | .number literal, _, fits, run => by
      rw [Term.run] at run
      cases run
      simpa [Term.fitsWidth] using fits
  | .literal written, _, _, run => by
      rw [Term.run] at run
      cases run
  | .receiver, _, _, run => by
      rw [Term.run] at run
      cases run
  | .path segments, fixes, _, _ => by
      rw [Term.fixesWidth] at fixes
      cases fixes
  | .call function arguments, fixes, _, _ => by
      rw [Term.fixesWidth] at fixes
      cases fixes
  | .invocation name arguments, _, _, run => by
      rw [Term.run] at run
      obtain ⟨values, _, invoked⟩ := bind_eq_ok run
      unfold invoke at invoked
      split at invoked <;> cases invoked
  | .field record name, fixes, _, _ => by
      rw [Term.fixesWidth] at fixes
      cases fixes
  | .method record name arguments, fixes, _, _ => by
      rw [Term.fixesWidth] at fixes
      cases fixes
  | .negation operand, fixes, fits, run => by
      rw [Term.fixesWidth] at fixes
      rw [Term.fitsWidth] at fits
      rw [Term.run] at run
      obtain ⟨negated, operandRun, complement⟩ := bind_eq_ok run
      unfold negate at complement
      split at complement
      · cases complement
      · cases complement
        exact isShort_complement (operand.isShort_of_run fixes fits operandRun)
      · cases complement
  | .binary operator left right, fixes, fits, run => by
      rw [Term.fixesWidth] at fixes
      rw [Term.fitsWidth] at fits
      rw [Term.run] at run
      obtain ⟨first, leftRun, further⟩ := bind_eq_ok run
      cases known : operator.shortcut? first with
      | some shortcut =>
          obtain ⟨truth, rfl⟩ := Operator.exists_truth_of_shortcut? known
          rw [known] at further
          cases further
      | none =>
          rw [known] at further
          obtain ⟨second, _, concluded⟩ := bind_eq_ok further
          obtain ⟨rfl, dividend, divisor, rfl, rfl⟩ :=
            Operator.exists_of_conclude_eq_integer concluded
          rw [Operator.keepsType, Bool.true_and, Bool.or_eq_false_iff] at fixes
          simp only [fixes, Operator.unites, Operator.keepsType, Bool.and_eq_true] at fits
          exact isShort_remainder (left.isShort_of_run fixes.1 fits.1 leftRun) divisor
  | .conditional condition whenTrue whenFalse, fixes, fits, run => by
      rw [Term.fixesWidth, Bool.or_eq_false_iff] at fixes
      simp only [Term.fitsWidth, fixes, Bool.or_false, Bool.and_eq_true] at fits
      rw [Term.run] at run
      obtain ⟨truth, _, chosen⟩ := bind_eq_ok run
      split at chosen
      · exact whenTrue.isShort_of_run fixes.1 fits.2.1 chosen
      · exact whenFalse.isShort_of_run fixes.2 fits.2.2 chosen
      · cases chosen
  | .selection subject arms, fixes, fits, run => by
      rw [Term.fixesWidth] at fixes
      simp only [Term.fitsWidth, fixes, Bool.or_false, Bool.and_eq_true] at fits
      rw [Term.run] at run
      obtain ⟨value, _, chosen⟩ := bind_eq_ok run
      exact isShort_of_runArms arms fixes fits.2 chosen

/-- So is an integer that an arm of a selection makes. -/
theorem isShort_of_runArms
    {scope : Scope}
    {subject : Value}
    {value : Int64} :
    (arms : List (Pattern × Term)) →
    armsFixWidth arms = false →
    armsFitWidth false arms →
    runArms scope subject arms = .ok (.integer value) →
    isShort value
  | [], _, _, run => by
      rw [runArms] at run
      cases run
  | (pattern, term) :: arms, fixes, fits, run => by
      rw [armsFixWidth, Bool.or_eq_false_iff] at fixes
      rw [armsFitWidth, Bool.and_eq_true] at fits
      rw [runArms] at run
      split at run
      · exact term.isShort_of_run fixes.1 fits.1 run
      · exact isShort_of_runArms arms fixes.2 fits.2 run

end

end Phrasebook.Generated
