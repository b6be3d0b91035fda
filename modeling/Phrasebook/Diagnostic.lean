import Phrasebook.Path

namespace Phrasebook

/-!
# Diagnostics

A problem found in a source set, with as much of its place as is known: locale, key, file, line in
the file, and offset in a plural expression. Diagnostics are collected in the order in which the
checks are made.
-/

/-- The kinds of problems. -/
inductive DiagnosticKind where
  | load
  | parse
  | semantic
  | validation
  | namingConflict
  | emit
  deriving Repr, DecidableEq

namespace DiagnosticKind

/-- The name of a kind in reports. -/
def identifier :
    DiagnosticKind →
    String
  | .load => "load"
  | .parse => "parse"
  | .semantic => "semantic"
  | .validation => "validation"
  | .namingConflict => "naming_conflict"
  | .emit => "emit"

/-- The name of a kind in messages. -/
def displayName :
    DiagnosticKind →
    String
  | .load => "load error"
  | .parse => "parse error"
  | .semantic => "semantic error"
  | .validation => "validation error"
  | .namingConflict => "naming conflict"
  | .emit => "emit error"

/-- The kind of a name in reports. -/
def ofIdentifier? :
    String →
    Option DiagnosticKind
  | "load" => some .load
  | "parse" => some .parse
  | "semantic" => some .semantic
  | "validation" => some .validation
  | "naming_conflict" => some .namingConflict
  | "emit" => some .emit
  | _ => none

end DiagnosticKind

/-- A problem and its place. -/
structure Diagnostic where
  kind : DiagnosticKind
  message : String
  locale : Option String := none
  key : Option String := none
  file : Option Path := none
  line : Option Nat := none
  offset : Option Nat := none
  deriving Repr, DecidableEq

namespace Diagnostic

/-- The place of a problem in a file as messages show it. -/
def displayFile
    (diagnostic : Diagnostic) :
    String :=
  match diagnostic.file with
  | none => ""
  | some file =>
      let line :=
        match diagnostic.line with
        | none => ""
        | some line => ":" ++ toString line
      " bundle '" ++ file.text ++ "'" ++ line ++ ","

/-- The locale of a problem as messages show it. -/
def displayLocale
    (diagnostic : Diagnostic) :
    String :=
  match diagnostic.locale with
  | none => ""
  | some locale =>
      let shown :=
        if locale.isEmpty then
          "root"
        else
          locale
      " locale '" ++ shown ++ "',"

/-- The key of a problem as messages show it. -/
def displayKey
    (diagnostic : Diagnostic) :
    String :=
  match diagnostic.key with
  | none => ""
  | some key => " key '" ++ key ++ "',"

/-- The offset of a problem as messages show it. -/
def displayOffset
    (diagnostic : Diagnostic) :
    String :=
  match diagnostic.offset with
  | none => ""
  | some offset => " at offset " ++ toString offset ++ ","

/-- A problem on one line of text. -/
def display
    (diagnostic : Diagnostic) :
    String :=
  "[" ++ diagnostic.kind.displayName ++ "]" ++ diagnostic.displayFile ++
    diagnostic.displayLocale ++ diagnostic.displayKey ++ diagnostic.displayOffset ++
    " " ++ diagnostic.message

/-- Problems, each on a line of its own. -/
def displayAll
    (diagnostics : List Diagnostic) :
    String :=
  "\n".intercalate (diagnostics.map display)

end Diagnostic

/-- Why a source set was not processed, or a command not carried out. -/
inductive Failure where
  | configuration (message : String)
  | invalid (diagnostics : List Diagnostic)
  | unwritable (path : Path) (cause : String)
  deriving Repr, DecidableEq

namespace Failure

/-- The message of a failure. -/
def message :
    Failure →
    String
  | .configuration message => "invalid configuration: " ++ message
  | .invalid diagnostics =>
      "bundle validation failed with " ++ toString diagnostics.length ++ " problem(s):\n" ++
        Diagnostic.displayAll diagnostics
  | .unwritable path cause => "cannot write `" ++ path.text ++ "`: " ++ cause

/-- The cause outside the program, if there is one. -/
def cause? :
    Failure →
    Option String
  | .unwritable _ cause => some cause
  | _ => none

/-- The problems of a failed validation. -/
def diagnostics? :
    Failure →
    Option (List Diagnostic)
  | .invalid diagnostics => some diagnostics
  | _ => none

/-- A failure as the problems of a report. -/
def toDiagnostics :
    Failure →
    List Diagnostic
  | .configuration message => [{ kind := .validation, message := message }]
  | .invalid diagnostics => diagnostics
  | .unwritable path cause => [{ kind := .emit, message := cause, file := some path }]

end Failure

end Phrasebook
