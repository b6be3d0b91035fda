import Phrasebook.Proofs.Generated.Acceptance

namespace Phrasebook.Generated

/-!
# Modules of generated code

A module is a sequence of items: enumerations, records, the members of a type, and functions. What
stands between braces is set aside when an item is read, and the body of a function is read as a
term when the function is called. A name that is declared twice is not called at all.

A text is no module unless all of its functions are accepted: each parameter is a variable, every
literal is of its type, and what is called `i64`, `str` or `String` is not declared by the module
itself.
-/

/-! ## Groups -/

/-- The mark that closes the group that a mark opens. -/
def closer? :
    Mark →
    Option Mark
  | .openParenthesis => some .closeParenthesis
  | .openBracket => some .closeBracket
  | .openBrace => some .closeBrace
  | _ => none

/-- Whether a mark closes a group. -/
def isCloser :
    Mark →
    Bool
  | .closeParenthesis => true
  | .closeBracket => true
  | .closeBrace => true
  | _ => false

/-- What a group is found to be, with a lexeme at the front of its inside. -/
def keep
    (lexeme : Lexeme)
    (found : List Lexeme × List Lexeme) :
    List Lexeme × List Lexeme :=
  (lexeme :: found.1, found.2)

/-- The inside of a group and what follows it. The marks that the open groups await are given, the
innermost first. -/
def takeGroup :
    List Mark →
    List Lexeme →
    Option (List Lexeme × List Lexeme)
  | _, [] => none
  | awaited, .mark mark :: rest =>
      match closer? mark with
      | some closer => (takeGroup (closer :: awaited) rest).map (keep (.mark mark))
      | none =>
          if isCloser mark then
            match awaited with
            | [] => none
            | innermost :: outer =>
                if mark = innermost then
                  if outer.isEmpty then
                    some ([], rest)
                  else
                    (takeGroup outer rest).map (keep (.mark mark))
                else
                  none
          else
            (takeGroup awaited rest).map (keep (.mark mark))
  | awaited, lexeme :: rest => (takeGroup awaited rest).map (keep lexeme)

/-! ## Types -/

/-- A type as it is written. -/
inductive WrittenType where
  | named (name : String)
  | own
  | reference (target : WrittenType)
  | lasting (lifetime : String) (target : WrittenType)
  deriving Repr, DecidableEq

/-- The name that a type refers to. -/
def WrittenType.name? :
    WrittenType →
    Option String
  | .named name => some name
  | .own => none
  | .reference target => target.name?
  | .lasting _ target => target.name?

/-- Reads a type. -/
def readType :
    List Lexeme →
    Option (WrittenType × List Lexeme)
  | .name name :: rest => some (.named name, rest)
  | .reserved "Self" :: rest => some (.own, rest)
  | .mark .ampersand :: .lifetime lifetime :: rest =>
      (readType rest).map fun (target, rest) => (.lasting lifetime target, rest)
  | .mark .ampersand :: rest =>
      (readType rest).map fun (target, rest) => (.reference target, rest)
  | _ => none

/-- A name that is declared with its type. -/
structure Declared where
  name : String
  type : WrittenType
  deriving Repr, DecidableEq

/-! ## Functions -/

/-- A function, or a method if it has a receiver. -/
structure Function where
  name : String
  hasReceiver : Bool
  declared : List Declared
  result : WrittenType
  body : List Lexeme
  deriving Repr, DecidableEq

/-- Whether a receiver is declared, and what follows it. -/
def readReceiver :
    List Lexeme →
    Bool × List Lexeme
  | [.mark .ampersand, .keyword .receiver] => (true, [])
  | .mark .ampersand :: .keyword .receiver :: .mark .comma :: rest => (true, rest)
  | given => (false, given)

/-- Reads names with their types, with commas between them. -/
def readNames
    (given : List Lexeme) :
    Option (List Declared) :=
  match given with
  | [] => some []
  | .name name :: .mark .colon :: typed => do
      match ← readType typed with
      | (type, []) => some [⟨name, type⟩]
      | (type, .mark .comma :: rest) => do
          let ⟨rest, _⟩ ← lessThan? typed rest
          let names ← readNames rest
          some (⟨name, type⟩ :: names)
      | _ => none
  | _ => none
  termination_by given.length

/-- Reads a function after its keyword. -/
def readFunction :
    List Lexeme →
    Option (Function × List Lexeme)
  | .name name :: .mark .openParenthesis :: rest => do
      let (inside, rest) ← takeGroup [.closeParenthesis] rest
      let (hasReceiver, inside) := readReceiver inside
      let declared ← readNames inside
      let rest ← expectMark .thinArrow rest
      let (result, rest) ← readType rest
      let rest ← expectMark .openBrace rest
      let (body, rest) ← takeGroup [.closeBrace] rest
      some (⟨name, hasReceiver, declared, result, body⟩, rest)
  | _ => none

/-- What is left after a constant array whose keyword and name stand before it. -/
def skipConstant :
    List Lexeme →
    Option (List Lexeme)
  | .mark .colon :: .mark .openBracket :: rest => do
      let (_, rest) ← takeGroup [.closeBracket] rest
      let rest ← expectMark .assign rest
      let rest ← expectMark .openBracket rest
      let (_, rest) ← takeGroup [.closeBracket] rest
      expectMark .semicolon rest
  | _ => none

/-- What is left after the word that exports an item. -/
def skipExport :
    List Lexeme →
    List Lexeme
  | .keyword .exported :: rest => rest
  | given => given

/-- Reads the members of a type: its functions, and constants, which are left out. -/
def readMembers
    (given : List Lexeme) :
    Option (List Function) :=
  match skipExport given with
  | [] => some []
  | .keyword .function :: rest => do
      let (function, rest) ← readFunction rest
      let ⟨rest, _⟩ ← lessThan? given rest
      let functions ← readMembers rest
      some (function :: functions)
  | .keyword .constant :: .keyword .function :: rest => do
      let (function, rest) ← readFunction rest
      let ⟨rest, _⟩ ← lessThan? given rest
      let functions ← readMembers rest
      some (function :: functions)
  | .keyword .constant :: .name _ :: rest => do
      let rest ← skipConstant rest
      let ⟨rest, _⟩ ← lessThan? given rest
      readMembers rest
  | _ => none
  termination_by given.length

/-! ## Items -/

/-- An item of a module. -/
inductive Item where
  | enumeration (name : String) (variants : List String)
  | record (name : String) (fields : List Declared)
  | implementation (type : String) (functions : List Function)
  | function (function : Function)
  deriving Repr, DecidableEq

/-- Reads the variants of an enumeration, one of which may be the default. -/
def readVariants :
    List Lexeme →
    Option (List String)
  | [] => some []
  | .mark .hash :: .mark .openBracket :: .name "default" :: .mark .closeBracket :: rest =>
      readVariants rest
  | .name name :: .mark .comma :: rest => (readVariants rest).map (name :: ·)
  | _ => none

/-- The attributes that an item may have. -/
def attributes :
    List String :=
  ["derive", "allow"]

/-- What is left after the attribute of an item, if it has one. -/
def skipAttribute :
    List Lexeme →
    Option (List Lexeme)
  | .mark .hash :: .mark .openBracket :: .name name :: rest =>
      if attributes.contains name then
        (takeGroup [.closeBracket] rest).map Prod.snd
      else
        none
  | given => some given

/-- Reads an item of which the attribute and the word that exports it are gone. -/
def readBareItem :
    List Lexeme →
    Option (Item × List Lexeme)
  | .keyword .enumeration :: .name name :: .mark .openBrace :: rest => do
      let (inside, rest) ← takeGroup [.closeBrace] rest
      let variants ← readVariants inside
      some (.enumeration name variants, rest)
  | .keyword .record :: .name name :: .mark .openBrace :: rest => do
      let (inside, rest) ← takeGroup [.closeBrace] rest
      let fields ← readNames inside
      some (.record name fields, rest)
  | .keyword .implementation :: .name type :: .mark .openBrace :: rest => do
      let (inside, rest) ← takeGroup [.closeBrace] rest
      let functions ← readMembers inside
      some (.implementation type functions, rest)
  | .keyword .function :: rest => do
      let (function, rest) ← readFunction rest
      some (.function function, rest)
  | _ => none

/-- Reads the items of a module. -/
def readItems
    (given : List Lexeme) :
    Option (List Item) :=
  match given with
  | [] => some []
  | given => do
      let rest ← skipAttribute given
      let (item, rest) ← readBareItem (skipExport rest)
      let ⟨rest, _⟩ ← lessThan? given rest
      let items ← readItems rest
      some (item :: items)
  termination_by given.length

/-- A module of generated code. -/
structure Module where
  items : List Item
  deriving Repr, DecidableEq

/-- The function of a name, unless there are several. -/
def only?
    (functions : List Function)
    (name : String) :
    Option Function :=
  match functions.filter (·.name == name) with
  | [function] => some function
  | _ => none

/-- The variants that every module has by their names. A parameter of such a name would be a pattern
for the variant instead of a variable. -/
def preludeVariants :
    List String :=
  ["None", "Some", "Ok", "Err"]

/-- The types of the standard library that terms and signatures rely on. -/
def standardTypes :
    List String :=
  ["i64", "str", "String"]

namespace Function

/-- The names of the parameters of a function. -/
def parameters
    (function : Function) :
    List String :=
  function.declared.map Declared.name

/-- The term that the body of a function is. -/
def term?
    (function : Function) :
    Option Term := do
  let found ← readValue function.body
  whole found

/-- Whether the parameters of a function are variables of different names. -/
def declaresVariables
    (function : Function) :
    Bool :=
  function.parameters.Nodup ∧ ∀ name ∈ function.parameters, name ∉ preludeVariants

theorem declaresVariables_iff
    {function : Function} :
    function.declaresVariables ↔
      function.parameters.Nodup ∧ ∀ name ∈ function.parameters, name ∉ preludeVariants := by
  rw [declaresVariables, decide_eq_true_iff]

/-- Whether a function is accepted by itself: its parameters are variables, and the literals of its
body are of their types. A body that is no term makes a value of a record, and no literals stand in
it. -/
def isAccepted
    (function : Function) :
    Bool :=
  function.declaresVariables &&
    function.term?.all fun term => term.fitsWidth (function.result = .named "i64")

/-- The names of the types that a function mentions. -/
def typeNames
    (function : Function) :
    List String :=
  (function.declared.filterMap (·.type.name?) ++ function.result.name?.toList) ++
    function.term?.toList.flatMap Term.calledTypes

/-- The run of a function on the values of its parameters, and on a receiver with certain fields. -/
def run
    (functions : String → List Value → Outcome Value)
    (fields : List (String × Value))
    (function : Function)
    (values : List Value) :
    Outcome Value :=
  match function.term? with
  | none => .error .stuck
  | some term =>
      if function.parameters.length = values.length ∧ function.isAccepted then
        term.run ⟨fields, function.parameters.zip values, functions⟩
      else
        .error .stuck

/-- The run of a function that is accepted is that of its body. -/
theorem run_of_isAccepted
    {function : Function}
    {term : Term}
    {values : List Value}
    (accepted : function.isAccepted)
    (read : function.term? = some term)
    (count : function.parameters.length = values.length)
    (functions : String → List Value → Outcome Value)
    (fields : List (String × Value)) :
    function.run functions fields values =
      term.run ⟨fields, function.parameters.zip values, functions⟩ := by
  rw [run, read]
  exact if_pos ⟨count, accepted⟩

/-- A function whose body is a term is accepted just if its parameters are variables and the
literals of the term are of their types. -/
theorem isAccepted_iff_of_term
    {function : Function}
    {term : Term}
    (read : function.term? = some term) :
    function.isAccepted ↔
      function.declaresVariables ∧ term.fitsWidth (function.result = .named "i64") := by
  rw [isAccepted, read, Option.all_some, Bool.and_eq_true]

/-- A function whose body calls no function of a type mentions the types of its signature. -/
theorem typeNames_of_term
    {function : Function}
    {term : Term}
    (read : function.term? = some term)
    (called : term.calledTypes = []) :
    function.typeNames =
      function.declared.filterMap (·.type.name?) ++ function.result.name?.toList := by
  simp [typeNames, read, called]

end Function

namespace Module

/-- The functions of a module that belong to no type. -/
def functions
    (module : Module) :
    List Function :=
  module.items.filterMap fun item =>
    match item with
    | .function function => some function
    | _ => none

/-- The functions of a type. -/
def members
    (module : Module)
    (type : String) :
    List Function :=
  module.items.flatMap fun item =>
    match item with
    | .implementation owner functions =>
        if owner = type then
          functions
        else
          []
    | _ => []

/-- The functions of a module, those of its types included. -/
def allFunctions
    (module : Module) :
    List Function :=
  module.items.flatMap fun item =>
    match item with
    | .implementation _ functions => functions
    | .function function => [function]
    | _ => []

/-- The names of the types that a module declares. -/
def declaredTypes
    (module : Module) :
    List String :=
  module.items.filterMap fun item =>
    match item with
    | .enumeration name _ => some name
    | .record name _ => some name
    | _ => none

/-- Whether the types of a module leave a function the standard type of each name that it mentions. -/
def keepsStandardTypes
    (module : Module)
    (function : Function) :
    Bool :=
  function.typeNames.all fun name =>
    !(standardTypes.contains name && module.declaredTypes.contains name)

/-- Whether a module is accepted: all of its functions are, and mean the standard types. -/
def isAccepted
    (module : Module) :
    Bool :=
  module.allFunctions.all fun function =>
    function.isAccepted && module.keepsStandardTypes function

/-- The module that a text is, if it is accepted. -/
def read
    (text : String) :
    Option Module := do
  let lexemes ← lexemes? text.toList
  let items ← readItems lexemes
  if isAccepted ⟨items⟩ then
    some ⟨items⟩
  else
    none

/-- The call of a function that belongs to no type, with calls inside it up to some depth. -/
def call
    (module : Module) :
    Nat →
    String →
    List Value →
    Outcome Value
  | 0, _, _ => .error .stuck
  | depth + 1, name, values =>
      match only? module.functions name with
      | none => .error .stuck
      | some function =>
          if function.hasReceiver then
            .error .stuck
          else
            function.run (module.call depth) [] values

/-- The call of a method of a type on a receiver with certain fields. -/
def callMethod
    (module : Module)
    (depth : Nat)
    (type : String)
    (fields : List (String × Value))
    (name : String)
    (values : List Value) :
    Outcome Value :=
  match only? (module.members type) name with
  | none => .error .stuck
  | some function =>
      if function.hasReceiver then
        function.run (module.call depth) fields values
      else
        .error .stuck

end Module

end Phrasebook.Generated
