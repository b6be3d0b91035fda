namespace Phrasebook.Placeholder

/-!
# Placeholders

A placeholder refers to an argument of a message: by its index, by its index and name, by its
index, name and type, or by its name alone.
-/

/-- The types of arguments. -/
inductive ArgumentType where
  | text
  | integer
  deriving Repr, DecidableEq

namespace ArgumentType

/-- The name of a type in messages. -/
def displayName :
    ArgumentType →
    String
  | .text => "str"
  | .integer => "int"

/-- The parameter type of a generated accessor. -/
def code :
    ArgumentType →
    String
  | .text => "&str"
  | .integer => "i64"

/-- The type of a written name, in either case. -/
def ofWritten?
    (written : List Char) :
    Option ArgumentType :=
  match String.ofList (written.map Char.toLower) with
  | "str" => some .text
  | "string" => some .text
  | "int" => some .integer
  | "long" => some .integer
  | "i64" => some .integer
  | _ => none

end ArgumentType

/-- What a placeholder says about the argument it refers to. -/
structure Reference where
  index : Option Nat
  name : Option String
  type : Option ArgumentType
  deriving Repr, DecidableEq

namespace Reference

/-- The parts of a reference that are present, as they are written. -/
def parts
    (reference : Reference) :
    List String :=
  (reference.index.map (toString ·)).toList ++ reference.name.toList ++
    (reference.type.map ArgumentType.displayName).toList

/-- A reference as it is written in a message. -/
def display
    (reference : Reference) :
    String :=
  "\x7b" ++ ":".intercalate reference.parts ++ "\x7d"

end Reference

/-- A run of text of a message, or one of its placeholders. -/
inductive Token where
  | text (text : String)
  | argument (reference : Reference)
  deriving Repr, DecidableEq

/-- A run of text of a message, or an argument given by its index. -/
inductive Piece where
  | text (text : String)
  | argument (index : Nat)
  deriving Repr, DecidableEq

end Phrasebook.Placeholder
