import Phrasebook.Proofs.Generated.Execution

namespace Phrasebook.Generated

/-!
# Free names

The names that a term takes from its surroundings are the words that stand alone in it, as variables
or as functions of the module; longer paths, methods and templates belong to the standard library.
How a term runs depends on what its free names stand for and on nothing else.
-/

/-- The word by which a receiver is called. -/
def receiverName :
    String :=
  "self"

/-- The names of a path that are taken from its surroundings. -/
def freeInPath :
    List String →
    List String
  | [name] => [name]
  | _ => []

mutual

/-- The names that a term takes from its surroundings. -/
def Term.freeNames :
    Term →
    List String
  | .number _ => []
  | .literal _ => []
  | .receiver => [receiverName]
  | .path segments => freeInPath segments
  | .call function arguments => freeInPath function ++ freeInAll arguments
  | .invocation _ arguments => freeInAll arguments
  | .field record _ => record.freeNames
  | .method record _ arguments => record.freeNames ++ freeInAll arguments
  | .negation operand => operand.freeNames
  | .binary _ left right => left.freeNames ++ right.freeNames
  | .conditional condition whenTrue whenFalse =>
      condition.freeNames ++ whenTrue.freeNames ++ whenFalse.freeNames
  | .selection subject arms => subject.freeNames ++ freeInArms arms

/-- The names that some terms take from their surroundings. -/
def freeInAll :
    List Term →
    List String
  | [] => []
  | term :: terms => term.freeNames ++ freeInAll terms

/-- The names that the arms of a selection take from their surroundings. -/
def freeInArms :
    List (Pattern × Term) →
    List String
  | [] => []
  | (_, term) :: arms => term.freeNames ++ freeInArms arms

end

/-- Whether two scopes give the same meaning to some names. -/
structure Scope.AgreeOn
    (names : List String)
    (first second : Scope) :
    Prop where
  locals : ∀ name ∈ names, first.locals.lookup name = second.locals.lookup name
  functions : ∀ name ∈ names, first.functions name = second.functions name
  fields : receiverName ∈ names → first.fields = second.fields

namespace Scope.AgreeOn

variable {names fewer : List String} {first second : Scope}

theorem mono
    (agree : AgreeOn names first second)
    (subset : fewer ⊆ names) :
    AgreeOn fewer first second :=
  ⟨fun name isMember => agree.locals name (subset isMember),
    fun name isMember => agree.functions name (subset isMember),
    fun isMember => agree.fields (subset isMember)⟩

theorem left
    {further : List String}
    (agree : AgreeOn (names ++ further) first second) :
    AgreeOn names first second :=
  agree.mono (List.subset_append_left names further)

theorem right
    {further : List String}
    (agree : AgreeOn (names ++ further) first second) :
    AgreeOn further first second :=
  agree.mono (List.subset_append_right names further)

theorem lookUp_eq
    {segments : List String}
    (agree : AgreeOn (freeInPath segments) first second) :
    first.lookUp segments = second.lookUp segments := by
  match segments with
  | [] =>
      rfl
  | [name] =>
      rw [lookUp, lookUp, agree.locals name (List.mem_singleton_self name)]
  | _ :: _ :: _ =>
      rfl

theorem apply_eq
    {path : List String}
    (agree : AgreeOn (freeInPath path) first second)
    (values : List Value) :
    first.apply path values = second.apply path values := by
  match path with
  | [] =>
      rfl
  | [name] =>
      have isMember := List.mem_singleton_self name
      rw [apply, apply, agree.locals name isMember, agree.functions name isMember]
  | _ :: _ :: _ =>
      rfl

end Scope.AgreeOn

/-- Only the fields of a receiver are looked up. -/
theorem Term.run_field_eq
    {first second : Scope}
    {record : Term}
    (name : String)
    (agree : first.AgreeOn record.freeNames second) :
    (Term.field record name).run first = (Term.field record name).run second := by
  cases record with
  | receiver =>
      rw [Term.run, Term.run, agree.fields (List.mem_singleton_self receiverName)]
  | _ =>
      rfl

mutual

/-- A term runs alike in scopes that agree on its free names. -/
theorem Term.run_eq_of_agreeOn
    {first second : Scope} :
    (term : Term) →
    first.AgreeOn term.freeNames second →
    term.run first = term.run second
  | .number _, _ => by rw [Term.run, Term.run]
  | .literal _, _ => by rw [Term.run, Term.run]
  | .receiver, _ => by rw [Term.run, Term.run]
  | .path segments, agree => by
      rw [Term.freeNames] at agree
      rw [Term.run, Term.run, agree.lookUp_eq]
  | .call function arguments, agree => by
      rw [Term.freeNames] at agree
      rw [Term.run, Term.run, runAll_eq_of_agreeOn arguments agree.right]
      simp only [agree.left.apply_eq]
  | .invocation name arguments, agree => by
      rw [Term.freeNames] at agree
      rw [Term.run, Term.run, runAll_eq_of_agreeOn arguments agree]
  | .field record name, agree => by
      rw [Term.freeNames] at agree
      exact Term.run_field_eq name agree
  | .method record name arguments, agree => by
      rw [Term.freeNames] at agree
      rw [Term.run, Term.run, record.run_eq_of_agreeOn agree.left,
        runAll_eq_of_agreeOn arguments agree.right]
  | .negation operand, agree => by
      rw [Term.freeNames] at agree
      rw [Term.run, Term.run, operand.run_eq_of_agreeOn agree]
  | .binary operator left right, agree => by
      rw [Term.freeNames] at agree
      rw [Term.run, Term.run, left.run_eq_of_agreeOn agree.left,
        right.run_eq_of_agreeOn agree.right]
  | .conditional condition whenTrue whenFalse, agree => by
      rw [Term.freeNames] at agree
      rw [Term.run, Term.run, condition.run_eq_of_agreeOn agree.left.left,
        whenTrue.run_eq_of_agreeOn agree.left.right, whenFalse.run_eq_of_agreeOn agree.right]
  | .selection subject arms, agree => by
      rw [Term.freeNames] at agree
      rw [Term.run, Term.run, subject.run_eq_of_agreeOn agree.left]
      simp only [runArms_eq_of_agreeOn arms agree.right]

/-- Terms run alike in scopes that agree on their free names. -/
theorem runAll_eq_of_agreeOn
    {first second : Scope} :
    (terms : List Term) →
    first.AgreeOn (freeInAll terms) second →
    runAll first terms = runAll second terms
  | [], _ => by rw [runAll, runAll]
  | term :: terms, agree => by
      rw [freeInAll] at agree
      rw [runAll, runAll, term.run_eq_of_agreeOn agree.left, runAll_eq_of_agreeOn terms agree.right]

/-- The arms of a selection run alike in scopes that agree on their free names. -/
theorem runArms_eq_of_agreeOn
    {first second : Scope}
    {value : Value} :
    (arms : List (Pattern × Term)) →
    first.AgreeOn (freeInArms arms) second →
    runArms first value arms = runArms second value arms
  | [], _ => by rw [runArms, runArms]
  | (pattern, term) :: arms, agree => by
      rw [freeInArms] at agree
      rw [runArms, runArms, term.run_eq_of_agreeOn agree.left,
        runArms_eq_of_agreeOn arms agree.right]

end

end Phrasebook.Generated
