import Phrasebook.Document.Scalar
import Phrasebook.Text.Quoted

namespace Phrasebook

/-!
# Configuration documents

The values that a configuration file may hold, whichever format it is written in. The entries of a
table stay in the order of the file, and a key may occur more than once.
-/

/-- A value of a configuration file. A moment is a day or a time of day. An unreadable value has a
place in its format but no meaning, so it may only stand where nobody asks for it. -/
inductive Document where
  | null
  | boolean (value : Bool)
  | integer (value : Int)
  | decimal (written : String)
  | moment (written : String)
  | text (value : String)
  | scalar (value : Document.Scalar)
  | list (items : List Document)
  | table (entries : List (String × Document))
  | unreadable
  deriving Repr

namespace Document

/-- What a value is, as messages say it. -/
def description :
    Document →
    String
  | .null => "null"
  | .boolean true => "boolean `true`"
  | .boolean false => "boolean `false`"
  | .integer value => "integer `" ++ toString value ++ "`"
  | .decimal written => "floating point `" ++ written ++ "`"
  | .text value => "string " ++ Text.quotedString value
  | .moment _ => "map"
  | .scalar value => "string " ++ Text.quotedString value.content
  | .list _ => "sequence"
  | .table _ => "map"
  | .unreadable => "unreadable value"

end Document

/-- Why a document is not the configuration it should be. -/
inductive DecodeFault where
  | missingField (name : String)
  | duplicateField (name : String)
  | wrongType (found expected : String)
  | wrongValue (found expected : String)
  | wrongLength (length : Nat) (expected : String)
  | unknownNaming (name : String)
  | other (message : String)
  deriving Repr, DecidableEq

namespace DecodeFault

/-- The message of a fault. -/
def message :
    DecodeFault →
    String
  | .missingField name => "missing field `" ++ name ++ "`"
  | .duplicateField name => "duplicate field `" ++ name ++ "`"
  | .wrongType found expected => "invalid type: " ++ found ++ ", expected " ++ expected
  | .wrongValue found expected => "invalid value: " ++ found ++ ", expected " ++ expected
  | .wrongLength length expected =>
      "invalid length " ++ toString length ++ ", expected " ++ expected
  | .unknownNaming name =>
      "unknown variant `" ++ name ++ "`, expected one of `camelCase`, `camel_case`, " ++
        "`snakeCase`, `snake_case`, `verbatim`"
  | .other message => message

end DecodeFault

namespace Document

/-- The table of some entries. It is unreadable if there is a key that is no text. -/
def ofEntries
    (entries : List (Option String × Document)) :
    Document :=
  match entries.mapM fun (key, document) => key.map fun name => (name, document) with
  | some found => .table found
  | none => .unreadable

/-- The fault of a value that is not what is expected. -/
def unexpected
    {α : Type}
    (document : Document)
    (expected : String) :
    Except DecodeFault α :=
  .error (.wrongType document.description expected)

/-- What a format lays down about values that stand for something else: what may be written beside
the name of a choice that holds no value, and whether a record given by position may have more
values than fields. -/
structure Conventions where
  isNothing : Document → Bool
  ignoresSurplus : Bool

/-- A value that has to be text. -/
def asText :
    Document →
    Except DecodeFault String
  | .text value => .ok value
  | .scalar value => .ok value.content
  | document => document.unexpected "a string"

/-- A value that has to be a truth value. -/
def asBoolean
    (document : Document) :
    Except DecodeFault Bool :=
  let value? : Option Bool :=
    match document with
    | .boolean value => some value
    | .scalar value => value.boolean?
    | _ => none
  match value? with
  | some value => .ok value
  | none => document.unexpected "a boolean"

/-- A value that has to be a count. -/
def asCount
    (document : Document) :
    Except DecodeFault Nat :=
  match document with
  | .integer value =>
      if 0 ≤ value ∧ value ≤ largestCount then
        .ok value.toNat
      else
        .error (.wrongValue document.description "usize")
  | .scalar value =>
      match value.count? with
      | some count => .ok count
      | none => document.unexpected "usize"
  | _ => document.unexpected "usize"

/-- A value that may be absent. -/
def asOptional
    (document : Document) :
    Except DecodeFault (Option Document) :=
  match document with
  | .null => .ok none
  | .scalar value =>
      match value.isAbsent? with
      | some true => .ok none
      | some false => .ok (some document)
      | none => .error (.wrongValue document.description "null")
  | _ => .ok (some document)

/-- A value that has to be a list. -/
def asList
    (document : Document) :
    Except DecodeFault (List Document) :=
  match document with
  | .list items => .ok items
  | .scalar value =>
      if value.isMissing then
        .ok []
      else
        document.unexpected "a sequence"
  | _ => document.unexpected "a sequence"

/-- A value that has to be a table. -/
def asTable
    (expected : String)
    (document : Document) :
    Except DecodeFault (List (String × Document)) :=
  match document with
  | .table entries => .ok entries
  | .moment _ => .ok []
  | .scalar value =>
      if value.isMissing then
        .ok []
      else
        document.unexpected expected
  | _ => document.unexpected expected

/-- The entries of a record. If they were given by position instead of by name, `given` is their
number. -/
structure RecordEntries where
  entries : List (String × Document)
  given : Option Nat := none

/-- A value that has to be a record with the given fields: a table, or the list of the values of
its first fields. -/
def asRecord
    (recordName : String)
    (fields : List String) :
    Document →
    Except DecodeFault RecordEntries
  | .list items => .ok ⟨fields.zip items, some items.length⟩
  | document => (asTable ("struct " ++ recordName) document).map fun entries => ⟨entries, none⟩

/-- The value of a field that has to be there. -/
def required
    {α : Type}
    (recordName : String)
    (fields : List String)
    (found : RecordEntries)
    (field : String) :
    Option α →
    Except DecodeFault α
  | some value => .ok value
  | none =>
      if found.given.isSome then
        .error (.wrongLength (fields.idxOf field)
          ("struct " ++ recordName ++ " with " ++ toString fields.length ++ " elements"))
      else
        .error (.missingField field)

/-- A record whose fields have been read is refused if it has more values than fields, where that
is not allowed. -/
def refuseSurplus
    (conventions : Conventions)
    (fields : List String)
    (found : RecordEntries) :
    Except DecodeFault Unit :=
  match found.given with
  | none => .ok ()
  | some length =>
      if conventions.ignoresSurplus || length ≤ fields.length then
        .ok ()
      else
        .error (.wrongLength length "fewer elements in array")

/-- The value of a field that has not been given before. -/
def once
    {α : Type}
    (field : String)
    (earlier : Option α)
    (value : Except DecodeFault α) :
    Except DecodeFault (Option α) :=
  match earlier with
  | some _ => .error (.duplicateField field)
  | none => value.map some

end Document

end Phrasebook
