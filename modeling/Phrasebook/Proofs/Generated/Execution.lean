import Phrasebook.Proofs.Generated.Term

namespace Phrasebook.Generated

/-!
# Execution of generated code

A run of a term ends with a value, panics, or is stuck because the term has no meaning. Integers
are 64-bit words; a remainder panics where there is none. An expression that makes a string is not
evaluated any further: it is its own value. A path through `i64` or `String` is one of the standard
library. Terms and modules for which this is not so are not accepted, and no function of a module is
run that is not.
-/

/-- An expression that makes a string, with the characters of its literal as written. -/
inductive TextExpression where
  | empty
  | converted (written : List Char)
  | formatted (written : List Char)
  deriving Repr, DecidableEq

/-- The values of generated code. -/
inductive Value where
  | integer (value : Int64)
  | truth (value : Bool)
  | optional (value : Option Int64)
  | variant (path : List String)
  | literal (written : List Char)
  | text (expression : TextExpression)
  deriving Repr, DecidableEq

/-- Why a run does not end with a value. -/
inductive Halt where
  | panic
  | stuck
  deriving Repr, DecidableEq

/-- How a run ends. -/
abbrev Outcome
    (α : Type) :
    Type :=
  Except Halt α

/-- What the names in a term stand for: the fields of the receiver, the variables, and the
functions of the module. -/
structure Scope where
  fields : List (String × Value)
  locals : List (String × Value)
  functions : String → List Value → Outcome Value

/-- Whether a division has no remainder in 64 bits. -/
def lacksRemainder
    (dividend divisor : Int64) :
    Bool :=
  divisor == 0 || (dividend == Int64.minValue && divisor == -1)

/-- The remainder of a division, unless there is none. -/
def checkedRemainder?
    (dividend divisor : Int64) :
    Option Int64 :=
  if lacksRemainder dividend divisor then
    none
  else
    some (dividend % divisor)

/-- The value that is looked up, if there is one. -/
def found
    (value : Option Value) :
    Outcome Value :=
  match value with
  | some value => .ok value
  | none => .error .stuck

namespace Operator

/-- The value of an operator that evaluates both of its operands. -/
def apply :
    Operator →
    Value →
    Value →
    Outcome Value
  | .remainder, .integer left, .integer right =>
      if lacksRemainder left right then
        .error .panic
      else
        .ok (.integer (left % right))
  | .less, .integer left, .integer right => .ok (.truth (left < right))
  | .lessEqual, .integer left, .integer right => .ok (.truth (left ≤ right))
  | .greater, .integer left, .integer right => .ok (.truth (right < left))
  | .greaterEqual, .integer left, .integer right => .ok (.truth (right ≤ left))
  | .equal, .integer left, .integer right => .ok (.truth (left == right))
  | .equal, .truth left, .truth right => .ok (.truth (left == right))
  | .notEqual, .integer left, .integer right => .ok (.truth (left != right))
  | .notEqual, .truth left, .truth right => .ok (.truth (left != right))
  | _, _, _ => .error .stuck

/-- The value that an operator has once its left operand is known, if that suffices. -/
def shortcut? :
    Operator →
    Value →
    Option Value
  | .both, .truth false => some (.truth false)
  | .either, .truth true => some (.truth true)
  | _, _ => none

/-- The value of an operator whose left operand does not suffice. -/
def conclude :
    Operator →
    Value →
    Value →
    Outcome Value
  | .both, .truth true, .truth right => .ok (.truth right)
  | .either, .truth false, .truth right => .ok (.truth right)
  | .both, _, _ => .error .stuck
  | .either, _, _ => .error .stuck
  | operator, left, right => operator.apply left right

end Operator

/-- The value of prefix negation. -/
def negate :
    Value →
    Outcome Value
  | .truth value => .ok (.truth !value)
  | .integer value => .ok (.integer (~~~value))
  | _ => .error .stuck

/-- The value of a path that is not called. -/
def Scope.lookUp
    (scope : Scope) :
    List String →
    Outcome Value
  | [name] => found (scope.locals.lookup name)
  | segments => .ok (.variant segments)

/-- The value of a call of a function of the standard library. -/
def applyStandard :
    List String →
    List Value →
    Outcome Value
  | ["i64", "checked_rem"], [.integer dividend, .integer divisor] =>
      .ok (.optional (checkedRemainder? dividend divisor))
  | ["String", "new"], [] => .ok (.text .empty)
  | ["String", "from"], [.literal written] => .ok (.text (.converted written))
  | _, _ => .error .stuck

/-- The value of a call. A variable hides the function of its name, and cannot be called. -/
def Scope.apply
    (scope : Scope)
    (path : List String)
    (values : List Value) :
    Outcome Value :=
  match path with
  | [name] =>
      match scope.locals.lookup name with
      | some _ => .error .stuck
      | none => scope.functions name values
  | path => applyStandard path values

/-- The value of a text template. -/
def invoke :
    String →
    List Value →
    Outcome Value
  | "format", [.literal written] => .ok (.text (.formatted written))
  | _, _ => .error .stuck

/-- The value of a method call. -/
def callMethod :
    String →
    Value →
    List Value →
    Outcome Value
  | "unwrap_or", .optional value, [.integer otherwise] => .ok (.integer (value.getD otherwise))
  | _, _, _ => .error .stuck

/-- Whether a value is one that a pattern stands for. A number beyond 64 bits stands for none. -/
def Pattern.fits :
    Pattern →
    Value →
    Bool
  | .wildcard, _ => true
  | .number expected, .integer value => (expected : Int) == value.toInt
  | .path segments, .variant tag => segments == tag
  | _, _ => false

mutual

/-- The run of a term. -/
def Term.run
    (scope : Scope) :
    Term →
    Outcome Value
  | .number value => .ok (.integer value)
  | .literal written => .ok (.literal written)
  | .receiver => .error .stuck
  | .path segments => scope.lookUp segments
  | .call function arguments => do
      let values ← runAll scope arguments
      scope.apply function values
  | .invocation name arguments => do
      let values ← runAll scope arguments
      invoke name values
  | .field .receiver name => found (scope.fields.lookup name)
  | .field _ _ => .error .stuck
  | .method record name arguments => do
      let base ← record.run scope
      let values ← runAll scope arguments
      callMethod name base values
  | .negation operand => do
      let value ← operand.run scope
      negate value
  | .binary operator left right => do
      let first ← left.run scope
      match operator.shortcut? first with
      | some value => .ok value
      | none => do
          let second ← right.run scope
          operator.conclude first second
  | .conditional condition whenTrue whenFalse => do
      match ← condition.run scope with
      | .truth true => whenTrue.run scope
      | .truth false => whenFalse.run scope
      | _ => .error .stuck
  | .selection subject arms => do
      let value ← subject.run scope
      runArms scope value arms

/-- The runs of some terms, one after another. -/
def runAll
    (scope : Scope) :
    List Term →
    Outcome (List Value)
  | [] => .ok []
  | term :: terms => do
      let value ← term.run scope
      let values ← runAll scope terms
      return value :: values

/-- The run of the first arm that fits a value. -/
def runArms
    (scope : Scope)
    (value : Value) :
    List (Pattern × Term) →
    Outcome Value
  | [] => .error .stuck
  | (pattern, term) :: arms =>
      if pattern.fits value then
        term.run scope
      else
        runArms scope value arms

end

/-! ## Calls whose arguments are known -/

section

variable {scope : Scope} {term : Term} {terms : List Term} {value : Value} {values : List Value}

theorem runAll_cons
    (run : term.run scope = .ok value)
    (runs : runAll scope terms = .ok values) :
    runAll scope (term :: terms) = .ok (value :: values) := by
  rw [runAll, run, runs]
  rfl

theorem runAll_singleton
    (run : term.run scope = .ok value) :
    runAll scope [term] = .ok [value] :=
  runAll_cons run (by rw [runAll])

theorem Term.run_variable
    {name : String}
    (bound : scope.locals.lookup name = some value) :
    (Term.path [name]).run scope = .ok value := by
  rw [Term.run, Scope.lookUp, bound]
  rfl

theorem Scope.apply_function
    {name : String}
    (unhidden : scope.locals.lookup name = none)
    (values : List Value) :
    scope.apply [name] values = scope.functions name values := by
  rw [Scope.apply, unhidden]

theorem Term.run_call
    (function : List String)
    (runs : runAll scope terms = .ok values) :
    (Term.call function terms).run scope = scope.apply function values := by
  rw [Term.run, runs]
  rfl

theorem Term.run_invocation
    (name : String)
    (runs : runAll scope terms = .ok values) :
    (Term.invocation name terms).run scope = invoke name values := by
  rw [Term.run, runs]
  rfl

theorem Term.run_method
    (name : String)
    (run : term.run scope = .ok value)
    (runs : runAll scope terms = .ok values) :
    (Term.method term name terms).run scope = callMethod name value values := by
  rw [Term.run, run, runs]
  rfl

end

end Phrasebook.Generated
