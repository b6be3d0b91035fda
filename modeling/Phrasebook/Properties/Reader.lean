import Phrasebook.Properties.Declaration
import Phrasebook.Properties.Escape

namespace Phrasebook.Properties

/-!
# Properties files

Each logical line of a properties file declares a key with one variant, or with several, or is at
fault: an escape may be malformed, a key empty, or declared before. A file with any faulty line
counts as malformed and all its faults are reported.
-/

/-- One declaration of a properties file. -/
structure Property where
  key : String
  variants : List String
  line : Nat
  deriving Repr, DecidableEq

namespace Property

/-- Whether a declaration has several variants. -/
def isPlural
    (property : Property) :
    Bool :=
  1 < property.variants.length

end Property

/-- What is wrong with a line of a properties file. -/
inductive LineFault where
  | escape (fault : EscapeFault)
  | emptyKey
  | duplicateKey (key : String) (firstLine : Nat)
  deriving Repr, DecidableEq

namespace LineFault

/-- The message of a fault. -/
def message :
    LineFault →
    String
  | .escape fault => fault.message
  | .emptyKey => "empty key"
  | .duplicateKey key firstLine =>
      "duplicate key `" ++ key ++ "` (first declared on line " ++ toString firstLine ++ ")"

end LineFault

/-- A fault and the line that has it. -/
structure LineError where
  line : Nat
  fault : LineFault
  deriving Repr, DecidableEq

namespace LineError

/-- A fault with its line. -/
def display
    (error : LineError) :
    String :=
  "line " ++ toString error.line ++ ": " ++ error.fault.message

end LineError

/-- What a logical line declares by itself. -/
def declaration
    (line : LogicalLine) :
    Except LineFault Property :=
  let (writtenKey, writtenValue) := keyAndValue line.text
  match decodeKey writtenKey with
  | .error fault => .error (.escape fault)
  | .ok key =>
      if key.isEmpty then
        .error .emptyKey
      else
        match decodeVariants writtenValue with
        | .error fault => .error (.escape fault)
        | .ok variants => .ok ⟨key, variants, line.number⟩

/-- What a logical line declares after the declarations of earlier lines. -/
def declarationAfter
    (earlier : List Property)
    (line : LogicalLine) :
    Except LineError Property :=
  match declaration line with
  | .error fault => .error ⟨line.number, fault⟩
  | .ok property =>
      match earlier.find? (·.key == property.key) with
      | some first => .error ⟨line.number, .duplicateKey property.key first.line⟩
      | none => .ok property

/-- What each of some logical lines declares, after the declarations of earlier lines. -/
def outcomesAfter
    (earlier : List Property) :
    List LogicalLine →
    List (Except LineError Property)
  | [] => []
  | line :: lines =>
      match declarationAfter earlier line with
      | .error error => .error error :: outcomesAfter earlier lines
      | .ok property => .ok property :: outcomesAfter (property :: earlier) lines

/-- What each logical line of a text declares, in order. -/
def outcomes
    (text : List Char) :
    List (Except LineError Property) :=
  outcomesAfter [] (logicalLines text)

/-- The declaration of an outcome, if there is one. -/
def declared? :
    Except LineError Property →
    Option Property
  | .ok property => some property
  | .error _ => none

/-- The error of an outcome, if there is one. -/
def error? :
    Except LineError Property →
    Option LineError
  | .ok _ => none
  | .error error => some error

/-- The declarations of a text in order, or all its errors if it has any. -/
def read
    (text : List Char) :
    Except (List LineError) (List Property) :=
  match (outcomes text).filterMap error? with
  | [] => .ok ((outcomes text).filterMap declared?)
  | errors => .error errors

/-- The declaration of a key. -/
def get?
    (properties : List Property)
    (key : String) :
    Option Property :=
  properties.find? (·.key == key)

/-- The keys of some declarations in order. -/
def keys
    (properties : List Property) :
    List String :=
  properties.map Property.key

/-- Why a properties file cannot be used. -/
inductive FileError where
  | notText
  | malformed (errors : List LineError)
  deriving Repr, DecidableEq

/-- The message for a file that is not text. -/
def notTextMessage :
    String :=
  "stream did not contain valid UTF-8"

namespace FileError

/-- The message of an error. -/
def message :
    FileError →
    String
  | .notText => "I/O error: " ++ notTextMessage
  | .malformed errors => "; ".intercalate (errors.map LineError.display)

end FileError

/-- The declarations of a file in any of the supported encodings. -/
def readBytes
    (bytes : List UInt8) :
    Except FileError (List Property) :=
  match Text.decodeFile? bytes with
  | none => .error .notText
  | some text =>
      match read text with
      | .error errors => .error (.malformed errors)
      | .ok properties => .ok properties

end Phrasebook.Properties
