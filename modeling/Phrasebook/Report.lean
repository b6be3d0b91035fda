import Phrasebook.Configuration
import Phrasebook.Publication

namespace Phrasebook

/-!
# Reports

What became of each source set of a configuration. The resources of a source set lie in the
subdirectory of the input directory that bears its name, and its generated file goes below the
subdirectory of the output directory of that name. Reports stand in the order of the source sets,
and the failure of one source set does not keep the others from being processed.
-/

/-- What can be done with source sets. -/
inductive Command where
  | validate
  | generate
  deriving Repr, DecidableEq

/-- What became of a source set. -/
inductive Status where
  | valid
  | written
  | unchanged
  | failed
  deriving Repr, DecidableEq

namespace Status

/-- The word for a status. -/
def word :
    Status →
    String
  | .valid => "valid"
  | .written => "written"
  | .unchanged => "unchanged"
  | .failed => "failed"

end Status

/-- What became of a source set, with its generated file or its problems. -/
structure Report where
  sourceSet : String
  status : Status
  artifact : Option Path := none
  diagnostics : List Diagnostic := []
  deriving Repr, DecidableEq

namespace Report

/-- Whether a source set was processed without problems. -/
def isSuccess
    (report : Report) :
    Bool :=
  report.status != .failed

/-- The report of a source set that failed. -/
def ofFailure
    (name : String)
    (failure : Failure) :
    Report where
  sourceSet := name
  status := .failed
  diagnostics := failure.toDiagnostics

/-- The report of a validated source set. -/
def ofValidation
    (name : String) :
    Except Failure Bundle →
    Report
  | .error failure => ofFailure name failure
  | .ok bundle => { sourceSet := name, status := .valid, artifact := some bundle.artifact }

/-- The report of a published source set. -/
def ofGenerated
    (name : String) :
    Except Failure Generated →
    Report
  | .error failure => ofFailure name failure
  | .ok (.written path) => { sourceSet := name, status := .written, artifact := some path }
  | .ok (.unchanged path) => { sourceSet := name, status := .unchanged, artifact := some path }

/-- Processes one source set below an input and an output directory. -/
def process
    (command : Command)
    (tree : FileTree)
    (input output : Path)
    (declared : NamedSourceSet) :
    FileTree × Report :=
  let sourceInput := input.join ⟨declared.name⟩
  let sourceOutput := output.join ⟨declared.name⟩
  match command with
  | .validate =>
      (tree,
        ofValidation declared.name
          (Publication.validate declared.sourceSet tree sourceInput sourceOutput))
  | .generate =>
      let (after, result) :=
        Publication.generate declared.sourceSet tree sourceInput sourceOutput
      (after, ofGenerated declared.name result)

/-- Processes source sets one after the other. -/
def processAll
    (command : Command)
    (input output : Path) :
    FileTree →
    List NamedSourceSet →
    FileTree × List Report
  | tree, [] => (tree, [])
  | tree, declared :: sourceSets =>
      let (after, report) := process command tree input output declared
      let (final, reports) := processAll command input output after sourceSets
      (final, report :: reports)

/-- A report as lines of text. -/
def render
    (report : Report) :
    String :=
  match report.status, report.artifact with
  | .failed, _ =>
      "✖ " ++ report.sourceSet ++ ": " ++ toString report.diagnostics.length ++
        " problem(s)\n" ++
        String.join (report.diagnostics.map fun diagnostic =>
          "  " ++ diagnostic.display ++ "\n")
  | status, some path =>
      "✔ " ++ report.sourceSet ++ ": " ++ status.word ++ " (" ++ path.text ++ ")\n"
  | _, none => "✔ " ++ report.sourceSet ++ "\n"

/-- Reports as lines of text. -/
def renderAll
    (reports : List Report) :
    String :=
  String.join (reports.map render)

/-- An entry of a table for a text that may be absent. -/
def textEntry
    (name : String)
    (value : Option String) :
    List (String × Document) :=
  value.toList.map fun found => (name, .text found)

/-- An entry of a table for a number that may be absent. -/
def numberEntry
    (name : String)
    (value : Option Nat) :
    List (String × Document) :=
  value.toList.map fun (found : Nat) => (name, .integer found)

/-- A problem as a document. What is not known of its place is left out. -/
def diagnosticDocument
    (diagnostic : Diagnostic) :
    Document :=
  .table (
    textEntry "kind" (some diagnostic.kind.identifier) ++
      textEntry "locale" diagnostic.locale ++
      textEntry "key" diagnostic.key ++
      textEntry "file" (diagnostic.file.map Path.text) ++
      numberEntry "line" diagnostic.line ++
      numberEntry "offset" diagnostic.offset ++
      textEntry "message" (some diagnostic.message))

/-- The entry for problems, if there are any. -/
def diagnosticsEntry
    (diagnostics : List Diagnostic) :
    List (String × Document) :=
  if diagnostics.isEmpty then
    []
  else
    [("diagnostics", .list (diagnostics.map diagnosticDocument))]

/-- A report as a document. -/
def toDocument
    (report : Report) :
    Document :=
  .table (
    textEntry "source_set" (some report.sourceSet) ++
      textEntry "status" (some report.status.word) ++
      textEntry "artifact" (report.artifact.map Path.text) ++
      diagnosticsEntry report.diagnostics)

/-- Reports as the text of a document. -/
def renderDocument
    (reports : List Report) :
    String :=
  Document.Json.write 0 (.list (reports.map toDocument))

end Report

end Phrasebook
