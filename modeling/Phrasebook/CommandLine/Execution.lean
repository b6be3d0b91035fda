import Phrasebook.CommandLine.Arguments

namespace Phrasebook.CommandLine

/-!
# Execution

The outcome of an argument list on a file tree: what is printed, the exit code and the tree
afterwards. The code is zero if every source set was processed without problems, one if not, and
two if the arguments do not ask for anything.
-/

/-- What a run of the program leaves behind. -/
structure Outcome where
  output : String := ""
  complaint : String := ""
  code : Nat := 0
  tree : FileTree

/-- The line that tells the version of the program. -/
def versionText :
    String :=
  "staticbundle-cli 0.1.0\n"

/-- What a command does, in one line. -/
def summary :
    Command →
    String
  | .validate => "Check resources and configuration without writing anything"
  | .generate => "Validate, then write one Rust source file per source set"

/-- The name of a command. -/
def commandName :
    Command →
    String
  | .validate => "validate"
  | .generate => "generate"

/-- The help for a command. -/
def commandHelp
    (command : Command) :
    String :=
  summary command ++ "\n\nUsage: staticbundle " ++ commandName command ++
    " [OPTIONS] --config <CONFIG> --input <INPUT> --output <OUTPUT>\n\n" ++
    "Options:\n" ++
    "  -c, --config <CONFIG>                " ++
    "Bundle config file (.toml, .yaml, .yml or .json)\n" ++
    "      --config-format <CONFIG_FORMAT>  " ++
    "Force the config format instead of inferring it from the extension " ++
    "[possible values: toml, yaml, json]\n" ++
    "  -i, --input <INPUT>                  " ++
    "Directory holding one resource subdirectory per source set\n" ++
    "  -o, --output <OUTPUT>                " ++
    "Directory receiving one artifact subdirectory per source set\n" ++
    "  -s, --source-set <SOURCE_SET>        " ++
    "Only process these source sets (repeatable); all when omitted\n" ++
    "      --json                           Print reports as JSON on stdout\n" ++
    "  -v, --verbose...                     " ++
    "Increase log verbosity (-v debug, -vv trace); `RUST_LOG` takes precedence\n" ++
    "  -h, --help                           Print help\n"

/-- The help for the program. -/
def programHelp :
    String :=
  "Command line driver that validates properties bundles and generates typed Rust message " ++
    "sources\n\nUsage: staticbundle [OPTIONS] <COMMAND>\n\nCommands:\n" ++
    "  validate  " ++ summary .validate ++ "\n" ++
    "  generate  " ++ summary .generate ++ "\n" ++
    "  help      Print this message or the help of the given subcommand(s)\n\n" ++
    "Options:\n" ++
    "  -v, --verbose...  " ++
    "Increase log verbosity (-v debug, -vv trace); `RUST_LOG` takes precedence\n" ++
    "  -h, --help        Print help\n" ++
    "  -V, --version     Print version\n"

/-- The help for a topic. -/
def helpText :
    Option Command →
    String
  | none => programHelp
  | some command => commandHelp command

/-- The source sets that a request is about. -/
def Request.sourceSets?
    (request : Request)
    (tree : FileTree) :
    Except ConfigurationFault (List NamedSourceSet) := do
  let configuration ← Configuration.load tree request.configuration request.format
  configuration.select request.sourceSets

/-- The files and directories on which the processing of a source set depends. -/
def Request.paths
    (request : Request)
    (declared : NamedSourceSet) :
    List Path :=
  let input := request.input.join ⟨declared.name⟩
  let output := request.output.join ⟨declared.name⟩
  let resources := declared.sourceSet.locales.map (ResourceSet.filePath declared.sourceSet input)
  match TargetName.parse declared.sourceSet.targetName with
  | .error _ => resources
  | .ok target =>
      let artifact := Validation.artifactPath output target
      resources ++ output :: artifact :: artifact.ancestors

/-- The outcome of a request. -/
def Request.execute
    (request : Request)
    (tree : FileTree) :
    Outcome :=
  match request.sourceSets? tree with
  | .error fault =>
      {
        complaint := "Error: " ++ fault.toFailure.message ++ "\n"
        code := 1
        tree := tree
      }
  | .ok sourceSets =>
      let (after, reports) :=
        Report.processAll request.command request.input request.output tree sourceSets
      {
        output :=
          if request.json then
            Report.renderDocument reports ++ "\n"
          else
            Report.renderAll reports
        code := if reports.all Report.isSuccess then 0 else 1
        tree := after
      }

/-- The outcome of what an argument list asks for. -/
def execute
    (tree : FileTree) :
    Except UsageFault Invocation →
    Outcome
  | .error fault => { complaint := "error: " ++ fault.message ++ "\n", code := 2, tree := tree }
  | .ok .version => { output := versionText, tree := tree }
  | .ok (.help topic) => { output := helpText topic, tree := tree }
  | .ok (.process request) => request.execute tree

/-- The outcome of an argument list. -/
def run
    (tree : FileTree)
    (arguments : List String) :
    Outcome :=
  execute tree (parse arguments)

end Phrasebook.CommandLine
