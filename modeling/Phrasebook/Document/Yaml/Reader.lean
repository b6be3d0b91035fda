import Phrasebook.Document.Basic
import Phrasebook.Document.Yaml.Node
import Phrasebook.Document.Yaml.TokenList

namespace Phrasebook.Document.Yaml

/-!
# Documents in YAML

An alias means a node with an anchor, which comes before the alias or holds it. To find what aliases
mean, a document is read repeatedly: each time the aliases take the meaning that the reading before
has found, so that after some readings everything is known that is not too deep to matter.

Anchors are numbered by how many different names came before. If a name is given again, the next
new name therefore has the same number, and of the nodes with a number the last one is meant.
-/

/-- The anchors found so far: the number of each name, and for each number the order of the nodes
with it; of nodes with anchors, how many there are and those that are complete. The last one comes
first everywhere. -/
structure Anchors where
  numbers : List (String × Nat) := []
  places : List (Nat × Nat) := []
  count : Nat := 0
  documents : List (Nat × Document) := []

namespace Anchors

/-- Enters a node that may have an anchor. -/
def enter
    (anchor : Option String)
    (anchors : Anchors) :
    Anchors :=
  match anchor with
  | none => anchors
  | some name =>
      let number := anchors.numbers.length
      { anchors with
        numbers := (name, number) :: anchors.numbers.filter (·.1 ≠ name)
        places := (number, anchors.count) :: anchors.places
        count := anchors.count + 1 }

/-- Leaves a node that may have an anchor, before which there were `place` nodes with anchors. -/
def leave
    (anchor : Option String)
    (place : Nat)
    (document : Document)
    (anchors : Anchors) :
    Anchors :=
  match anchor with
  | none => anchors
  | some _ => { anchors with documents := (place, document) :: anchors.documents }

/-- The documents of all numbers. -/
def meanings
    (anchors : Anchors) :
    List (Nat × Document) :=
  anchors.places.filterMap fun (number, place) =>
    (anchors.documents.lookup place).map fun document => (number, document)

end Anchors

/-- The text of a key. -/
def keyText? :
    Document →
    Option String
  | .scalar value => some value.content
  | _ => none

mutual

/-- The document of a node, where aliases have some meanings. An alias has to come after an anchor
of its name. -/
def Node.toDocument?
    (meanings : List (Nat × Document)) :
    Node →
    Anchors →
    Option (Document × Anchors)
  | .alias name, anchors =>
      (anchors.numbers.lookup name).map fun number =>
        ((meanings.lookup number).getD .unreadable, anchors)
  | .scalar anchor value, anchors =>
      let document := Document.scalar value
      some (document, (anchors.enter anchor).leave anchor anchors.count document)
  | .list anchor items, anchors =>
      (itemDocuments? meanings items (anchors.enter anchor)).map fun (documents, after) =>
        let document := Document.list documents
        (document, after.leave anchor anchors.count document)
  | .table anchor entries, anchors =>
      (entryDocuments? meanings entries (anchors.enter anchor)).map fun (documents, after) =>
        let document := ofEntries documents
        (document, after.leave anchor anchors.count document)

/-- The documents of the items of a list. -/
def itemDocuments?
    (meanings : List (Nat × Document)) :
    List Node →
    Anchors →
    Option (List Document × Anchors)
  | [], anchors => some ([], anchors)
  | item :: items, anchors =>
      match item.toDocument? meanings anchors with
      | none => none
      | some (document, after) =>
          (itemDocuments? meanings items after).map fun (documents, final) =>
            (document :: documents, final)

/-- The documents of the entries of a table. -/
def entryDocuments?
    (meanings : List (Nat × Document)) :
    List (Node × Node) →
    Anchors →
    Option (List (Option String × Document) × Anchors)
  | [], anchors => some ([], anchors)
  | (key, value) :: entries, anchors =>
      match key.toDocument? meanings anchors with
      | none => none
      | some (keyDocument, afterKey) =>
          match value.toDocument? meanings afterKey with
          | none => none
          | some (document, after) =>
              (entryDocuments? meanings entries after).map fun (documents, final) =>
                ((keyText? keyDocument, document) :: documents, final)

end

/-- What the aliases of a node mean after some readings. -/
def Node.meaningsAfter?
    (node : Node) :
    (readings : Nat) →
    Option (List (Nat × Document))
  | 0 => some []
  | readings + 1 => do
      let earlier ← node.meaningsAfter? readings
      let (_, anchors) ← node.toDocument? earlier {}
      return anchors.meanings

/-- The number of readings after which all aliases are known that can matter. A configuration is a
table of records, which hold lists of records, and no value is asked for below their fields. -/
def readingCount :
    Nat :=
  8

/-- The document that a text is. -/
def read?
    (source : List Char) :
    Option Document := do
  let tokens ← tokens? source
  let node ← Node.ofTokens? tokens
  let meanings ← node.meaningsAfter? readingCount
  let (document, _) ← node.toDocument? meanings {}
  return document

/-- A choice is never written as a table, and a record has no values beyond its last field. -/
def conventions :
    Conventions where
  isNothing _ := false
  ignoresSurplus := false

end Phrasebook.Document.Yaml
