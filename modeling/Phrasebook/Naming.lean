import Phrasebook.Identifier
import Phrasebook.Text.Quoted

namespace Phrasebook

/-!
# Naming strategies

How the keys of messages become the names of their accessors. Three strategies are built in; any
function on text can be registered as a further one, and two registered strategies are the same
only if they come from the same registration.
-/

/-- A key conversion supplied from outside. -/
structure CustomNaming where
  name : String
  registration : Nat
  convert : String → String

/-- A strategy that turns message keys into accessor names. -/
inductive Naming where
  | camelCase
  | snakeCase
  | verbatim
  | custom (strategy : CustomNaming)

namespace Naming

instance : Inhabited Naming where
  default := .camelCase

/-- The accessor name of a key. -/
def accessorName
    (naming : Naming)
    (key : String) :
    String :=
  match naming with
  | .camelCase => String.ofList (Identifier.camelCase key.toList)
  | .snakeCase => String.ofList (Identifier.snakeCase key.toList)
  | .verbatim => key
  | .custom strategy => strategy.convert key

/-- The name of a strategy in messages. -/
def displayName :
    Naming →
    String
  | .camelCase => "camel_case"
  | .snakeCase => "snake_case"
  | .verbatim => "verbatim"
  | .custom strategy => "custom `" ++ strategy.name ++ "`"

/-- The name of a strategy where a value is shown for inspection. -/
def inspectedName :
    Naming →
    String
  | .custom strategy => "Custom(" ++ Text.quotedString strategy.name ++ ")"
  | naming => naming.displayName

/-- Whether two strategies are the same one. -/
def isSame :
    Naming →
    Naming →
    Bool
  | .camelCase, .camelCase => true
  | .snakeCase, .snakeCase => true
  | .verbatim, .verbatim => true
  | .custom first, .custom second => first.registration == second.registration
  | _, _ => false

/-- The built-in strategy of a configured name. -/
def builtin? :
    String →
    Option Naming
  | "camel_case" => some .camelCase
  | "camelCase" => some .camelCase
  | "snake_case" => some .snakeCase
  | "snakeCase" => some .snakeCase
  | "verbatim" => some .verbatim
  | _ => none

end Naming

end Phrasebook
