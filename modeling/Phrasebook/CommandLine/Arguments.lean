import Phrasebook.Report

namespace Phrasebook.CommandLine

/-!
# Arguments

An argument list names a command and its options. Long options follow two hyphens and take their
value after an equals sign or from the next argument; short options follow one hyphen, several may
stand together, and the value of the last may be attached to it. Every option may be given once,
apart from the selection of source sets and the request for more log lines.
-/

/-- A request to process source sets. -/
structure Request where
  command : Command
  configuration : Path
  format : Option ConfigurationFormat
  input : Path
  output : Path
  sourceSets : List String
  json : Bool
  deriving Repr, DecidableEq

/-- What an argument list asks for. -/
inductive Invocation where
  | process (request : Request)
  | version
  | help (topic : Option Command)
  deriving Repr, DecidableEq

/-- Why an argument list asks for nothing. -/
inductive UsageFault where
  | noCommand
  | unknownCommand (name : String)
  | unexpected (argument : String)
  | noValue (option : String)
  | unexpectedValue (option value : String)
  | invalidValue (option value : String)
  | repeated (option : String)
  | missing (options : List String)
  deriving Repr, DecidableEq

namespace UsageFault

/-- The message of a fault. -/
def message :
    UsageFault →
    String
  | .noCommand => "a command is required"
  | .unknownCommand name => "unrecognized command '" ++ name ++ "'"
  | .unexpected argument => "unexpected argument '" ++ argument ++ "' found"
  | .noValue option => "a value is required for '" ++ option ++ "' but none was supplied"
  | .unexpectedValue option value =>
      "unexpected value '" ++ value ++ "' for '" ++ option ++ "' found"
  | .invalidValue option value => "invalid value '" ++ value ++ "' for '" ++ option ++ "'"
  | .repeated option => "the argument '" ++ option ++ "' cannot be used multiple times"
  | .missing options =>
      "the following required arguments were not provided: " ++ ", ".intercalate options

end UsageFault

/-- The options of a command. -/
inductive OptionName where
  | configuration
  | format
  | input
  | output
  | sourceSet
  | json
  | verbose
  | help
  deriving Repr, DecidableEq

namespace OptionName

/-- The long form of an option. -/
def long :
    OptionName →
    String
  | .configuration => "config"
  | .format => "config-format"
  | .input => "input"
  | .output => "output"
  | .sourceSet => "source-set"
  | .json => "json"
  | .verbose => "verbose"
  | .help => "help"

/-- The option of a long form. -/
def ofLong? :
    String →
    Option OptionName
  | "config" => some .configuration
  | "config-format" => some .format
  | "input" => some .input
  | "output" => some .output
  | "source-set" => some .sourceSet
  | "json" => some .json
  | "verbose" => some .verbose
  | "help" => some .help
  | _ => none

/-- The option of a short form. -/
def ofShort? :
    Char →
    Option OptionName
  | 'c' => some .configuration
  | 'i' => some .input
  | 'o' => some .output
  | 's' => some .sourceSet
  | 'v' => some .verbose
  | 'h' => some .help
  | _ => none

/-- Whether an option takes a value. -/
def takesValue :
    OptionName →
    Bool
  | .json => false
  | .verbose => false
  | .help => false
  | _ => true

/-- An option as messages show it. -/
def display
    (option : OptionName) :
    String :=
  "--" ++ option.long

end OptionName

/-- The options that have been read. -/
structure Draft where
  configuration : Option Path := none
  format : Option ConfigurationFormat := none
  input : Option Path := none
  output : Option Path := none
  sourceSets : List String := []
  json : Bool := false

namespace Draft

/-- A path that is given as a value, which must not be empty. -/
def pathValue
    (option : OptionName)
    (earlier : Option Path)
    (value : String) :
    Except UsageFault (Option Path) :=
  if earlier.isSome then
    .error (.repeated option.display)
  else if value.isEmpty then
    .error (.noValue option.display)
  else
    .ok (some ⟨value⟩)

/-- A format that is given as a value. Here its name has to be exact. -/
def formatValue
    (earlier : Option ConfigurationFormat)
    (value : String) :
    Except UsageFault (Option ConfigurationFormat) :=
  if earlier.isSome then
    .error (.repeated OptionName.format.display)
  else
    match value with
    | "toml" => .ok (some .toml)
    | "yaml" => .ok (some .yaml)
    | "json" => .ok (some .json)
    | _ => .error (.invalidValue OptionName.format.display value)

/-- The options with one more that takes a value. -/
def withValue
    (draft : Draft)
    (option : OptionName)
    (value : String) :
    Except UsageFault Draft := do
  match option with
  | .configuration =>
      return { draft with configuration := ← pathValue option draft.configuration value }
  | .format => return { draft with format := ← formatValue draft.format value }
  | .input => return { draft with input := ← pathValue option draft.input value }
  | .output => return { draft with output := ← pathValue option draft.output value }
  | .sourceSet => return { draft with sourceSets := draft.sourceSets ++ [value] }
  | _ => .error (.unexpectedValue option.display value)

/-- The request that the options make up. -/
def request
    (draft : Draft)
    (command : Command) :
    Except UsageFault Request :=
  match draft.configuration, draft.input, draft.output with
  | some configuration, some input, some output =>
      .ok {
        command := command
        configuration := configuration
        format := draft.format
        input := input
        output := output
        sourceSets := draft.sourceSets
        json := draft.json
      }
  | configuration, input, output =>
      .error (.missing (
        (if configuration.isNone then [OptionName.configuration.display] else []) ++
          (if input.isNone then [OptionName.input.display] else []) ++
          (if output.isNone then [OptionName.output.display] else [])))

end Draft

/-- What an argument is by its hyphens. -/
inductive Argument where
  | separator
  | long (name : String) (value : Option String)
  | short (letters : List Char)
  | plain (content : String)
  deriving Repr, DecidableEq

namespace Argument

/-- What an argument is. A single hyphen is a plain argument. -/
def classify
    (argument : String) :
    Argument :=
  match argument.toList with
  | ['-', '-'] => .separator
  | '-' :: '-' :: characters =>
      let name := String.ofList (characters.takeWhile (· != '='))
      match characters.dropWhile (· != '=') with
      | [] => .long name none
      | _ :: value => .long name (some (String.ofList value))
  | '-' :: letter :: letters => .short (letter :: letters)
  | _ => .plain argument

end Argument

/-- The value that is attached to a short option. An equals sign in front of it is not part of
it. -/
def attachedValue? :
    List Char →
    Option String
  | [] => none
  | '=' :: characters => some (String.ofList characters)
  | characters => some (String.ofList characters)

/-- What reading an option leads to. -/
inductive Step where
  | continued (draft : Draft)
  | awaiting (draft : Draft) (option : OptionName)
  | help

/-- The options with one more that takes no value. -/
def readFlag
    (draft : Draft)
    (option : OptionName) :
    Except UsageFault Step :=
  match option with
  | .json =>
      if draft.json then
        .error (.repeated option.display)
      else
        .ok (.continued { draft with json := true })
  | .help => .ok .help
  | _ => .ok (.continued draft)

/-- Reads a long option. -/
def readLong
    (draft : Draft)
    (name : String)
    (value : Option String) :
    Except UsageFault Step :=
  match OptionName.ofLong? name, value with
  | none, _ => .error (.unexpected ("--" ++ name))
  | some option, some value =>
      if option.takesValue then
        (draft.withValue option value).map .continued
      else
        .error (.unexpectedValue option.display value)
  | some option, none =>
      if option.takesValue then
        .ok (.awaiting draft option)
      else
        readFlag draft option

/-- Reads short options that stand together. -/
def readShort
    (draft : Draft) :
    (letters : List Char) →
    Except UsageFault Step
  | [] => .ok (.continued draft)
  | letter :: letters =>
      match OptionName.ofShort? letter with
      | none => .error (.unexpected (String.ofList ['-', letter]))
      | some option =>
          if option.takesValue then
            match attachedValue? letters with
            | some value => (draft.withValue option value).map .continued
            | none => .ok (.awaiting draft option)
          else
            match readFlag draft option with
            | .ok (.continued extended) => readShort extended letters
            | other => other

/-- Reads the options of a command. -/
def readOptions
    (command : Command) :
    Draft →
    List String →
    Except UsageFault Invocation
  | draft, [] => (draft.request command).map .process
  | draft, argument :: arguments => do
      let step ←
        match Argument.classify argument with
        | .separator =>
            match arguments with
            | [] => .ok (.continued draft)
            | extra :: _ => .error (.unexpected extra)
        | .long name value => readLong draft name value
        | .short letters => readShort draft letters
        | .plain content => .error (.unexpected content)
      match step, arguments with
      | .help, _ => return .help (some command)
      | .continued extended, rest => readOptions command extended rest
      | .awaiting _ option, [] => .error (.noValue option.display)
      | .awaiting extended option, value :: rest =>
          match Argument.classify value with
          | .plain content =>
              readOptions command (← extended.withValue option content) rest
          | _ => .error (.noValue option.display)

/-- The command of a name. -/
def command? :
    String →
    Option Command
  | "validate" => some .validate
  | "generate" => some .generate
  | _ => none

/-- Reads what help is asked for. -/
def readTopic :
    List String →
    Except UsageFault Invocation
  | [] => .ok (.help none)
  | ["help"] => .ok (.help none)
  | [name] =>
      match command? name with
      | some command => .ok (.help (some command))
      | none => .error (.unknownCommand name)
  | _ :: extra :: _ => .error (.unexpected extra)

/-- Reads short options that stand before a command. Nothing is the result if a command is still
to come. -/
def readLeadingShort :
    (letters : List Char) →
    Except UsageFault (Option Invocation)
  | [] => .ok none
  | 'v' :: letters => readLeadingShort letters
  | 'h' :: _ => .ok (some (.help none))
  | 'V' :: _ => .ok (some .version)
  | letter :: _ => .error (.unexpected (String.ofList ['-', letter]))

/-- Reads a long option that stands before a command. -/
def readLeadingLong
    (name : String)
    (value : Option String) :
    Except UsageFault (Option Invocation) :=
  match name, value with
  | "verbose", none => .ok none
  | "help", none => .ok (some (.help none))
  | "version", none => .ok (some .version)
  | name, some value => .error (.unexpectedValue ("--" ++ name) value)
  | name, none => .error (.unexpected ("--" ++ name))

/-- What an argument list asks for. -/
def parse :
    List String →
    Except UsageFault Invocation
  | [] => .error .noCommand
  | argument :: arguments =>
      let leading :=
        match Argument.classify argument with
        | .separator => Except.error UsageFault.noCommand
        | .long name value => readLeadingLong name value
        | .short letters => readLeadingShort letters
        | .plain _ => .ok none
      match leading, Argument.classify argument with
      | .error fault, _ => .error fault
      | .ok (some invocation), _ => .ok invocation
      | .ok none, .plain "help" => readTopic arguments
      | .ok none, .plain name =>
          match command? name with
          | some command => readOptions command {} arguments
          | none => .error (.unknownCommand name)
      | .ok none, _ => parse arguments

end Phrasebook.CommandLine
