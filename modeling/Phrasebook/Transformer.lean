import Phrasebook.Text.Quoted
import Phrasebook.Text.Whitespace

namespace Phrasebook

/-!
# Content transformers

A function that every variant of every message passes through before placeholders are looked for.
Two can be chosen by name; any other function on text can be registered. Transformers are the same
only if they have one name and come from one registration.
-/

/-- A named function on the text of messages. -/
structure Transformer where
  name : String
  registration : Nat
  apply : String → String

namespace Transformer

/-- Removes white space at both ends. -/
def trim
    (registration : Nat) :
    Transformer where
  name := "trim"
  registration := registration
  apply text := String.ofList (Text.trim text.toList)

/-- Replaces every run of white space by one space, and removes it at both ends. -/
def collapseWhitespace
    (registration : Nat) :
    Transformer where
  name := "collapse-whitespace"
  registration := registration
  apply text := String.ofList (Text.collapseWhitespace text.toList)

/-- The transformer of a configured name. -/
def builtin?
    (registration : Nat) :
    String →
    Option Transformer
  | "trim" => some (trim registration)
  | "collapse-whitespace" => some (collapseWhitespace registration)
  | "collapse_whitespace" => some (collapseWhitespace registration)
  | _ => none

/-- The message for a name that no transformer has. -/
def unknownMessage
    (name : String) :
    String :=
  "unknown content transformer `" ++ name ++ "` (expected `trim` or `collapse-whitespace`)"

/-- The name of a transformer where a value is shown for inspection. -/
def inspectedName
    (transformer : Transformer) :
    String :=
  "ContentTransformer(" ++ Text.quotedString transformer.name ++ ")"

/-- Whether two transformers are the same one. -/
def isSame
    (first second : Transformer) :
    Bool :=
  first.name == second.name && first.registration == second.registration

/-- A text after an optional transformer. -/
def applyTo
    (transformer : Option Transformer)
    (text : String) :
    String :=
  match transformer with
  | none => text
  | some transformer => transformer.apply text

end Transformer

end Phrasebook
