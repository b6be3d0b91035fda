import Phrasebook.Placeholder.Basic

namespace Phrasebook.Placeholder

/-!
# Argument tables

The arguments of one message. Indexed placeholders of the root text declare them, in any order;
a name or a type that a placeholder leaves out may be stated by another one. Placeholders of other
locales are resolved against the table and must agree with it.
-/

/-- A declared argument, and whether its name and its type have been stated. -/
structure Argument where
  index : Nat
  name : String
  type : ArgumentType
  nameStated : Bool
  typeStated : Bool
  deriving Repr, DecidableEq

/-- The number of arguments that a message may have. -/
def argumentLimit :
    Nat :=
  64

/-- The arguments of a message, each at its index. -/
structure ArgumentTable where
  slots : List (Option Argument) := []
  deriving Repr, DecidableEq

/-- Why a placeholder does not fit an argument table, or why a table is not complete. -/
inductive ArgumentFault where
  | indexTooLarge (index : Nat)
  | nameReused (name : String) (other : Nat)
  | twoNames (index : Nat) (first second : String)
  | twoTypes (index : Nat) (first second : ArgumentType)
  | extraneous (reference : Reference)
  | outOfRange (index size : Nat)
  | unknownName (name : String)
  | empty (reference : Reference)
  | otherName (index : Nat) (declared written : String)
  | otherType (name : String) (declared written : ArgumentType)
  | missing (index : Nat)
  | sameName (first second : Nat) (name : String)
  deriving Repr, DecidableEq

namespace ArgumentFault

/-- The message of a fault. -/
def message :
    ArgumentFault →
    String
  | .indexTooLarge index =>
      "argument index " ++ toString index ++ " exceeds the limit of " ++
        toString argumentLimit ++ " arguments"
  | .nameReused name other =>
      "argument `" ++ name ++ "` reuses the name of index " ++ toString other
  | .twoNames index first second =>
      "argument " ++ toString index ++ " is named both `" ++ first ++ "` and `" ++ second ++ "`"
  | .twoTypes index first second =>
      "argument " ++ toString index ++ " is typed both `" ++ first.displayName ++ "` and `" ++
        second.displayName ++ "`"
  | .extraneous reference => "extraneous argument " ++ reference.display
  | .outOfRange index size =>
      "argument index " ++ toString index ++ " is out of range [0, " ++ toString size ++ ")"
  | .unknownName name => "argument with unknown name `" ++ name ++ "`"
  | .empty reference => "malformed argument " ++ reference.display
  | .otherName index declared written =>
      "argument " ++ toString index ++ " is declared as `" ++ declared ++ "`, not `" ++
        written ++ "`"
  | .otherType name declared written =>
      "argument `" ++ name ++ "` is declared as `" ++ declared.displayName ++ "`, not `" ++
        written.displayName ++ "`"
  | .missing index => "no argument for index " ++ toString index
  | .sameName first second name =>
      "arguments " ++ toString first ++ " and " ++ toString second ++ " are both named `" ++
        name ++ "`"

end ArgumentFault

namespace ArgumentTable

/-- Whether nothing has been declared. -/
def isEmpty
    (table : ArgumentTable) :
    Bool :=
  table.slots.isEmpty

/-- The declared arguments in the order of their indices. -/
def arguments
    (table : ArgumentTable) :
    List Argument :=
  table.slots.filterMap id

/-- The argument declared at an index. -/
def at?
    (table : ArgumentTable)
    (index : Nat) :
    Option Argument :=
  (table.slots[index]?).join

/-- The first argument of a name. -/
def named?
    (table : ArgumentTable)
    (name : String) :
    Option Argument :=
  table.arguments.find? (·.name == name)

/-- The name of an argument for which none has been stated. -/
def defaultName
    (index : Nat) :
    String :=
  "arg" ++ toString index

/-- A table with room for an index. -/
def extended
    (table : ArgumentTable)
    (index : Nat) :
    List (Option Argument) :=
  table.slots ++ List.replicate (index + 1 - table.slots.length) none

/-- A table with an argument at its index. -/
def put
    (table : ArgumentTable)
    (argument : Argument) :
    ArgumentTable :=
  ⟨(table.extended argument.index).set argument.index (some argument)⟩

/-- The argument that a placeholder declares at a free index. -/
def fresh
    (index : Nat)
    (reference : Reference) :
    Argument where
  index := index
  name := reference.name.getD (defaultName index)
  type := reference.type.getD .text
  nameStated := reference.name.isSome
  typeStated := reference.type.isSome

/-- The argument that a placeholder refers to, if it agrees with its declaration. -/
def resolve
    (table : ArgumentTable)
    (reference : Reference) :
    Except ArgumentFault Nat := do
  let declared ←
    match reference.index, reference.name with
    | some index, _ =>
        match table.at? index with
        | some argument => .ok argument
        | none =>
            if table.isEmpty then
              .error (.extraneous reference)
            else
              .error (.outOfRange index table.slots.length)
    | none, some name =>
        match table.named? name with
        | some argument => .ok argument
        | none => .error (.unknownName name)
    | none, none => .error (.empty reference)
  if let (some _, some name) := (reference.index, reference.name) then
    if declared.name ≠ name then
      throw (.otherName declared.index declared.name name)
  if let some type := reference.type then
    if declared.type ≠ type then
      throw (.otherType declared.name declared.type type)
  return declared.index

/-- An argument with the name that a placeholder states for it. -/
def withName
    (argument : Argument) :
    Option String →
    Except ArgumentFault Argument
  | none => .ok argument
  | some name =>
      if argument.nameStated && argument.name != name then
        .error (.twoNames argument.index argument.name name)
      else
        .ok { argument with name := name, nameStated := true }

/-- An argument with the type that a placeholder states for it. -/
def withType
    (argument : Argument) :
    Option ArgumentType →
    Except ArgumentFault Argument
  | none => .ok argument
  | some type =>
      if argument.typeStated && argument.type != type then
        .error (.twoTypes argument.index argument.type type)
      else
        .ok { argument with type := type, typeStated := true }

/-- States a name and a type once more for an argument. A name is kept even where the type then
turns out not to fit. -/
def restate
    (table : ArgumentTable)
    (argument : Argument)
    (reference : Reference) :
    ArgumentTable × Except ArgumentFault Nat :=
  match withName argument reference.name with
  | .error fault => (table, .error fault)
  | .ok named =>
      match withType named reference.type with
      | .error fault => (table.put named, .error fault)
      | .ok typed => (table.put typed, .ok argument.index)

/-- The index, other than a given one, of the argument that has the name of a placeholder. -/
def otherIndexOfName?
    (table : ArgumentTable)
    (index : Nat)
    (reference : Reference) :
    Option (String × Nat) :=
  match reference.name with
  | none => none
  | some name =>
      match table.named? name with
      | none => none
      | some argument =>
          if argument.index = index then
            none
          else
            some (name, argument.index)

/-- Declares the argument of an indexed placeholder, or resolves one by name. -/
def declare
    (table : ArgumentTable)
    (reference : Reference) :
    ArgumentTable × Except ArgumentFault Nat :=
  match reference.index with
  | none => (table, table.resolve reference)
  | some index =>
      if argumentLimit ≤ index then
        (table, .error (.indexTooLarge index))
      else
        match table.otherIndexOfName? index reference with
        | some (name, other) => (table, .error (.nameReused name other))
        | none =>
            match table.at? index with
            | none => (table.put (fresh index reference), .ok index)
            | some argument => table.restate argument reference

/-- The first two of some arguments that share a name, after the arguments before them. -/
def firstSameName?
    (earlier : List Argument) :
    List Argument →
    Option ArgumentFault
  | [] => none
  | argument :: rest =>
      match earlier.find? (·.name == argument.name) with
      | some first => some (.sameName first.index argument.index argument.name)
      | none => firstSameName? (earlier ++ [argument]) rest

/-- Requires that the indices have no gap and that no two arguments share a name. -/
def checkComplete
    (table : ArgumentTable) :
    Except ArgumentFault Unit :=
  match table.slots.findIdx? (·.isNone) with
  | some index => .error (.missing index)
  | none =>
      match firstSameName? [] table.arguments with
      | some fault => .error fault
      | none => .ok ()

end ArgumentTable

end Phrasebook.Placeholder
