import Phrasebook.Document.Yaml.Token

namespace Phrasebook.Document.Yaml

/-!
# Nodes of YAML

A node is a scalar, a list or a table, or an alias of a node that has an anchor. Where a node may
stand but none does, it is an empty scalar. A text has one document, before which directives may
stand and around which there may be marks.
-/

/-- A value as it is written. Keys of tables are nodes like any others. -/
inductive Node where
  | alias (name : String)
  | scalar (anchor : Option String) (value : Scalar)
  | list (anchor : Option String) (items : List Node)
  | table (anchor : Option String) (entries : List (Node × Node))

namespace Node

/-- The anchor and the full tag in front of a node. -/
structure Properties where
  anchor : Option String := none
  tag : Option (List UInt8) := none

/-- Reads the anchor and the tag in front of a node, which may come in either order. -/
def readProperties
    (handles : List TagHandle) :
    List Token →
    Option (Properties × List Token)
  | .anchor name :: .tag written :: rest =>
      (written.resolve? handles).map fun full => (⟨some name, some full⟩, rest)
  | .tag written :: .anchor name :: rest =>
      (written.resolve? handles).map fun full => (⟨some name, some full⟩, rest)
  | .anchor name :: rest => some (⟨some name, none⟩, rest)
  | .tag written :: rest =>
      (written.resolve? handles).map fun full => (⟨none, some full⟩, rest)
  | tokens => some ({}, tokens)

/-- A scalar with properties. -/
def ofScalar
    (properties : Properties)
    (content : String)
    (style : ScalarStyle) :
    Node :=
  .scalar properties.anchor ⟨content, style, properties.tag.map scalarTag⟩

/-- The node that stands where none is written. -/
def missing
    (properties : Properties) :
    Node :=
  ofScalar properties "" .plain

/-- Whether the first token is one of some tokens. -/
def startsWithAny
    (expected : List Token)
    (tokens : List Token) :
    Bool :=
  tokens.head?.any expected.contains

/-- What comes next between brackets: the closing bracket, or what follows a comma. Before the first
item or entry there is no comma. -/
def afterComma?
    (isFirst : Bool)
    (closing : Token)
    (tokens : List Token) :
    Option (List Token) :=
  if isFirst || startsWithAny [closing] tokens then
    some tokens
  else if startsWithAny [.comma] tokens then
    some (tokens.drop 1)
  else
    none

mutual

/-- Reads a node. After the mark of a key or value it may be a list that is not indented. The fuel
bounds the depth and the number of tokens. -/
def read
    (handles : List TagHandle) :
    (fuel : Nat) →
    (inEntry : Bool) →
    List Token →
    Option (Node × List Token)
  | 0, _, _ => none
  | _ + 1, _, .alias name :: rest => some (.alias name, rest)
  | fuel + 1, inEntry, tokens =>
      match readProperties handles tokens with
      | none => none
      | some (properties, content) =>
          if inEntry && startsWithAny [.item] content then
            (readItems handles fuel false content).map fun (items, remaining) =>
              (.list properties.anchor items, remaining)
          else
            match content with
            | .scalar text style :: rest => some (ofScalar properties text style, rest)
            | .opensList :: rest =>
                (readBracketItems handles fuel true rest).map fun (items, remaining) =>
                  (.list properties.anchor items, remaining)
            | .opensTable :: rest =>
                (readBracketEntries handles fuel true rest).map fun (entries, remaining) =>
                  (.table properties.anchor entries, remaining)
            | .listStart :: rest =>
                (readItems handles fuel true rest).map fun (items, remaining) =>
                  (.list properties.anchor items, remaining)
            | .tableStart :: rest =>
                (readEntries handles fuel rest).map fun (entries, remaining) =>
                  (.table properties.anchor entries, remaining)
            | _ =>
                if properties.anchor.isSome || properties.tag.isSome then
                  some (missing properties, content)
                else
                  none

/-- Reads a node, unless one of the tokens that may follow a missing one comes first. -/
def readUnless
    (handles : List TagHandle) :
    (fuel : Nat) →
    (followers : List Token) →
    (inEntry : Bool) →
    List Token →
    Option (Node × List Token)
  | 0, _, _, _ => none
  | fuel + 1, followers, inEntry, tokens =>
      if startsWithAny followers tokens then
        some (missing {}, tokens)
      else
        read handles fuel inEntry tokens

/-- Reads the items of a list outside of brackets. Only a list of its own indentation has an end
that is marked. -/
def readItems
    (handles : List TagHandle) :
    (fuel : Nat) →
    (isIndented : Bool) →
    List Token →
    Option (List Node × List Token)
  | 0, _, _ => none
  | fuel + 1, isIndented, tokens =>
      let followers : List Token :=
        if isIndented then
          [.item, .indentEnd]
        else
          [.item, .key, .value, .indentEnd]
      match tokens with
      | .item :: rest =>
          match readUnless handles fuel followers false rest with
          | none => none
          | some (item, afterItem) =>
              (readItems handles fuel isIndented afterItem).map fun (items, remaining) =>
                (item :: items, remaining)
      | _ =>
          if !isIndented then
            some ([], tokens)
          else if startsWithAny [.indentEnd] tokens then
            some ([], tokens.drop 1)
          else
            none

/-- Reads the entries of a table outside of brackets. -/
def readEntries
    (handles : List TagHandle) :
    (fuel : Nat) →
    List Token →
    Option (List (Node × Node) × List Token)
  | 0, _ => none
  | fuel + 1, tokens =>
      match tokens with
      | .indentEnd :: rest => some ([], rest)
      | .key :: rest =>
          match readUnless handles fuel [.key, .value, .indentEnd] true rest with
          | none => none
          | some (key, afterKey) =>
              match readValue handles fuel [.key, .value, .indentEnd] true afterKey with
              | none => none
              | some (value, afterValue) =>
                  (readEntries handles fuel afterValue).map fun (entries, remaining) =>
                    ((key, value) :: entries, remaining)
      | _ => none

/-- Reads the value of an entry with its mark, if there is one. -/
def readValue
    (handles : List TagHandle) :
    (fuel : Nat) →
    (followers : List Token) →
    (inEntry : Bool) →
    List Token →
    Option (Node × List Token)
  | 0, _, _, _ => none
  | fuel + 1, followers, inEntry, tokens =>
      match tokens with
      | .value :: rest => readUnless handles fuel followers inEntry rest
      | _ => some (missing {}, tokens)

/-- Reads an item between brackets. An entry is an item that is a table of its own; where its key is
missing, the token that follows the mark of the key is left out. -/
def readBracketItem
    (handles : List TagHandle) :
    (fuel : Nat) →
    List Token →
    Option (Node × List Token)
  | 0, _ => none
  | fuel + 1, tokens =>
      match tokens with
      | .key :: rest =>
          let key :=
            if startsWithAny [.value, .comma, .closesList] rest then
              some (missing {}, rest.drop 1)
            else
              read handles fuel false rest
          match key with
          | none => none
          | some (key, afterKey) =>
              (readValue handles fuel [.comma, .closesList] false afterKey).map
                fun (value, remaining) => (.table none [(key, value)], remaining)
      | _ => read handles fuel false tokens

/-- Reads the items of a list between brackets up to its end. -/
def readBracketItems
    (handles : List TagHandle) :
    (fuel : Nat) →
    (isFirst : Bool) →
    List Token →
    Option (List Node × List Token)
  | 0, _, _ => none
  | fuel + 1, isFirst, tokens =>
      match afterComma? isFirst .closesList tokens with
      | none => none
      | some (.closesList :: rest) => some ([], rest)
      | some start =>
          match readBracketItem handles fuel start with
          | none => none
          | some (item, afterItem) =>
              (readBracketItems handles fuel false afterItem).map fun (items, remaining) =>
                (item :: items, remaining)

/-- Reads an entry between brackets. A node without the mark of a key is a key without a value. -/
def readBracketEntry
    (handles : List TagHandle) :
    (fuel : Nat) →
    List Token →
    Option ((Node × Node) × List Token)
  | 0, _ => none
  | fuel + 1, tokens =>
      match tokens with
      | .key :: rest =>
          match readUnless handles fuel [.value, .comma, .closesTable] false rest with
          | none => none
          | some (key, afterKey) =>
              (readValue handles fuel [.comma, .closesTable] false afterKey).map
                fun (value, remaining) => ((key, value), remaining)
      | _ =>
          (read handles fuel false tokens).map fun (key, remaining) =>
            ((key, missing {}), remaining)

/-- Reads the entries of a table between brackets up to its end. -/
def readBracketEntries
    (handles : List TagHandle) :
    (fuel : Nat) →
    (isFirst : Bool) →
    List Token →
    Option (List (Node × Node) × List Token)
  | 0, _, _ => none
  | fuel + 1, isFirst, tokens =>
      match afterComma? isFirst .closesTable tokens with
      | none => none
      | some (.closesTable :: rest) => some ([], rest)
      | some start =>
          match readBracketEntry handles fuel start with
          | none => none
          | some (entry, afterEntry) =>
              (readBracketEntries handles fuel false afterEntry).map
                fun (entries, remaining) => (entry :: entries, remaining)

end

/-- The handles of a document with some directives. There may be one version, of the first major
number and a minor number that is known, and one meaning for each handle. -/
def handles?
    (directives : List Directive) :
    Option (List TagHandle) :=
  let versions := directives.filterMap fun
    | .version major minor => some (major, minor)
    | .handle _ => none
  let handles := directives.filterMap fun
    | .version _ _ => none
    | .handle handle => some handle
  if versions.length ≤ 1 && versions.all [(1, 1), (1, 2)].contains &&
      (handles.map (·.handle)).Nodup then
    some (handles ++ standardHandles)
  else
    none

/-- The directives at the start of some tokens. -/
def directives :
    List Token →
    List Directive
  | .directive directive :: rest => directive :: directives rest
  | _ => []

/-- Reads a document with the directives and the mark before it. -/
def readDocument
    (tokens : List Token) :
    Option (Node × List Token) :=
  let fuel := 5 * tokens.length + 5
  let found := directives tokens
  match handles? found, tokens.drop found.length with
  | some handles, .documentStart :: content =>
      match content with
      | [] => some (missing {}, [])
      | .directive _ :: _ => some (missing {}, content)
      | .documentStart :: _ => some (missing {}, content)
      | .documentEnd :: _ => some (missing {}, content)
      | _ => read handles fuel false content
  | _, _ =>
      if found.isEmpty then
        read standardHandles fuel false tokens
      else
        none

/-- The node of the tokens of a text that has at most one document. -/
def ofTokens?
    (tokens : List Token) :
    Option Node :=
  if tokens.isEmpty then
    some (missing {})
  else
    match readDocument tokens with
    | none => none
    | some (node, rest) =>
        if rest.all (· == .documentEnd) then
          some node
        else
          none

end Node

end Phrasebook.Document.Yaml
