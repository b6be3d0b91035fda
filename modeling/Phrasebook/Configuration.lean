import Phrasebook.Diagnostic
import Phrasebook.Document.Json
import Phrasebook.Document.Toml.Reader
import Phrasebook.Document.Yaml.Reader
import Phrasebook.FileTree
import Phrasebook.Properties.Reader
import Phrasebook.SourceSet.Decoding
import Phrasebook.Text.Encoding
import Phrasebook.Text.Whitespace

namespace Phrasebook

/-!
# Configuration files

A configuration file declares source sets by name, in one of three formats. The source sets are
kept in the order of their names. A selection takes the named source sets in the order asked for,
and each can be taken once.
-/

/-- The formats of configuration files. -/
inductive ConfigurationFormat where
  | toml
  | yaml
  | json
  deriving Repr, DecidableEq

/-- Why a configuration is not usable. -/
inductive ConfigurationFault where
  | unknownFormat (name : String)
  | formatNotInferred (path : Path)
  | unreadable (path : Path) (cause : String)
  | undecodable (path : Path) (cause : DecodeFault)
  | noSourceSets
  | unknownSourceSet (name : String) (available : List String)
  deriving Repr, DecidableEq

namespace ConfigurationFault

/-- The message of a fault. -/
def message :
    ConfigurationFault →
    String
  | .unknownFormat name =>
      "Unknown config format: '" ++ name ++ "'. Supported formats: toml, yaml, json"
  | .formatNotInferred path => "Cannot infer config format of '" ++ path.text ++ "'"
  | .unreadable path cause => "Cannot read config file '" ++ path.text ++ "': " ++ cause
  | .undecodable path cause => "Invalid config file '" ++ path.text ++ "': " ++ cause.message
  | .noSourceSets => "Config file declares no source sets"
  | .unknownSourceSet name available =>
      "Unknown source set '" ++ name ++ "'. Declared source sets: " ++
        ", ".intercalate available

/-- A fault of the configuration as the failure of a command. -/
def toFailure
    (fault : ConfigurationFault) :
    Failure :=
  .configuration fault.message

end ConfigurationFault

namespace ConfigurationFormat

/-- The format of a name, in any case and with white space around it. -/
def ofName
    (name : String) :
    Except ConfigurationFault ConfigurationFormat :=
  let plain := String.ofList ((Text.trim name.toList).map Char.toLower)
  match plain with
  | "toml" => .ok .toml
  | "yaml" => .ok .yaml
  | "yml" => .ok .yaml
  | "json" => .ok .json
  | _ => .error (.unknownFormat plain)

/-- The format of a file by its extension. -/
def ofPath
    (path : Path) :
    Except ConfigurationFault ConfigurationFormat :=
  match path.extension? with
  | none => .error (.formatNotInferred path)
  | some extension => ofName extension

/-- The document that a text is in a format. -/
def read?
    (format : ConfigurationFormat)
    (source : List Char) :
    Option Document :=
  match format with
  | .toml => Document.Toml.read? source
  | .yaml => Document.Yaml.read? source
  | .json => Document.Json.read? source

/-- The conventions of a format. -/
def conventions :
    ConfigurationFormat →
    Document.Conventions
  | .toml => Document.Toml.conventions
  | .yaml => Document.Yaml.conventions
  | .json => Document.Json.conventions

end ConfigurationFormat

/-- A source set and the name under which it is declared. -/
structure NamedSourceSet where
  name : String
  sourceSet : SourceSet

/-- The source sets that a configuration file declares, in the order of their names. -/
structure Configuration where
  sourceSets : List NamedSourceSet := []

namespace Configuration

/-- Declares a source set in place of one with the same name, before those with greater names. -/
def insert
    (declared : NamedSourceSet) :
    List NamedSourceSet →
    List NamedSourceSet
  | [] => [declared]
  | first :: others =>
      if declared.name < first.name then
        declared :: first :: others
      else if declared.name = first.name then
        declared :: others
      else
        first :: insert declared others

/-- Reads the entries of a configuration. A later entry replaces one with the same name. -/
def decodeEntries
    (conventions : Document.Conventions) :
    List NamedSourceSet →
    List (String × Document) →
    Except DecodeFault (List NamedSourceSet)
  | declared, [] => .ok declared
  | declared, (name, document) :: entries => do
      let sourceSet ← SourceSet.decode conventions document
      decodeEntries conventions (insert ⟨name, sourceSet⟩ declared) entries

/-- The configuration in a document. -/
def decode
    (conventions : Document.Conventions)
    (document : Document) :
    Except DecodeFault Configuration := do
  let entries ← document.asTable "a map"
  let sourceSets ← decodeEntries conventions [] entries
  return ⟨sourceSets⟩

/-- The configuration that a text is in a format. -/
def read
    (format : ConfigurationFormat)
    (source : List Char) :
    Except DecodeFault Configuration :=
  match format.read? source with
  | none => .error (.other "the file does not have the form that its format demands")
  | some document => decode format.conventions document

/-- The configuration in a file. Its extension tells the format unless one is given. -/
def load
    (tree : FileTree)
    (path : Path)
    (format : Option ConfigurationFormat) :
    Except ConfigurationFault Configuration := do
  let format ←
    match format with
    | some format => .ok format
    | none => ConfigurationFormat.ofPath path
  match tree.read path with
  | .error fault => .error (.unreadable path fault.message)
  | .ok bytes =>
      match Text.wellFormed? (Text.decodeUtf8 bytes) with
      | none => .error (.unreadable path Properties.notTextMessage)
      | some source =>
          match read format source with
          | .error fault => .error (.undecodable path fault)
          | .ok configuration => .ok configuration

/-- The names of the source sets. -/
def names
    (sourceSets : List NamedSourceSet) :
    List String :=
  sourceSets.map NamedSourceSet.name

/-- Takes source sets by name, in the order of the names. What was taken is not available again. -/
def take
    (available : List NamedSourceSet) :
    (wanted : List String) →
    Except ConfigurationFault (List NamedSourceSet)
  | [] => .ok []
  | name :: wanted =>
      match available.find? (·.name = name) with
      | none => .error (.unknownSourceSet name (names available))
      | some found => do
          let others ← take (available.filter (·.name ≠ name)) wanted
          return found :: others

/-- The source sets that are selected, which are all of them if no name is given. -/
def select
    (configuration : Configuration)
    (wanted : List String) :
    Except ConfigurationFault (List NamedSourceSet) :=
  if configuration.sourceSets.isEmpty then
    .error .noSourceSets
  else if wanted.isEmpty then
    .ok configuration.sourceSets
  else
    take configuration.sourceSets wanted

end Configuration

end Phrasebook
