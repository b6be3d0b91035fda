import Phrasebook.Document.Basic

namespace Phrasebook.Document.Toml

/-!
# Tables under construction

While a document is read, every table remembers how it came about, because that decides what may
still be added. A table under a header is complete when its section ends; a table that only lies
on the way to another header may get a header of its own later; a table made by a dotted key may
only be extended by dotted keys. A value is never extended.
-/

/-- How a table came about. -/
inductive Origin where
  | implied
  | header
  | dotted
  deriving Repr, DecidableEq

/-- What a key leads to: a finished value, a table, or a list of tables of which the last is
open. -/
inductive Node where
  | leaf (document : Document)
  | table (origin : Origin) (entries : List (String × Node))
  | series (items : List (List (String × Node)))

/-- The entries of a table. -/
abbrev Entries :=
  List (String × Node)

/-- Changes what a key leads to. A key that was not there comes last. -/
def change
    (key : String)
    (update : Option Node → Option Node) :
    Entries →
    Option Entries
  | [] => (update none).map fun node => [(key, node)]
  | (name, node) :: entries =>
      if name = key then
        (update (some node)).map fun changed => (name, changed) :: entries
      else
        (change key update entries).map fun changed => (name, node) :: changed

/-- Changes the last table of a list. -/
def changeLast
    (update : Entries → Option Entries)
    (items : List Entries) :
    Option Node :=
  match items.reverse with
  | [] => none
  | last :: earlier =>
      (update last).map fun changed => .series (changed :: earlier).reverse

/-- Changes the table at the end of a path. The tables on the way are made if they are missing. -/
def descend
    (update : Entries → Option Entries) :
    (path : List String) →
    Entries →
    Option Entries
  | [], entries => update entries
  | key :: path, entries =>
      entries |> change key fun
        | none => (descend update path []).map (.table .implied ·)
        | some (.table origin inner) => (descend update path inner).map (.table origin ·)
        | some (.series items) => changeLast (descend update path) items
        | some (.leaf _) => none

/-- Adds a value at the end of a dotted key. -/
def insert
    (value : Document) :
    (path : List String) →
    Entries →
    Option Entries
  | [], _ => none
  | [key], entries =>
      entries |> change key fun
        | none => some (.leaf value)
        | some _ => none
  | key :: next :: path, entries =>
      entries |> change key fun
        | none => (insert value (next :: path) []).map (.table .dotted ·)
        | some (.table .dotted inner) =>
            (insert value (next :: path) inner).map (.table .dotted ·)
        | some (.table .implied inner) =>
            if path.isEmpty then
              none
            else
              (insert value (next :: path) inner).map (.table .implied ·)
        | some (.series items) =>
            if path.isEmpty then
              none
            else
              changeLast (insert value (next :: path)) items
        | some _ => none

/-- Opens the table of a header. -/
def openTable
    (path : List String)
    (entries : Entries) :
    Option Entries :=
  match path.reverse with
  | [] => none
  | key :: above =>
      entries |> (above.reverse |> descend (change key fun
        | none => some (.table .header [])
        | some (.table .implied inner) => some (.table .header inner)
        | some _ => none))

/-- Adds a table to the list of a doubled header. -/
def openItem
    (path : List String)
    (entries : Entries) :
    Option Entries :=
  match path.reverse with
  | [] => none
  | key :: above =>
      entries |> (above.reverse |> descend (change key fun
        | none => some (.series [[]])
        | some (.series items) => some (.series (items ++ [[]]))
        | some _ => none))

mutual

/-- The finished document that a key leads to. -/
def Node.toDocument :
    Node →
    Document
  | .leaf document => document
  | .table _ entries => .table (finishedEntries entries)
  | .series items => .list (finishedItems items)

/-- The finished entries of a table. -/
def finishedEntries :
    List (String × Node) →
    List (String × Document)
  | [] => []
  | (key, node) :: entries => (key, node.toDocument) :: finishedEntries entries

/-- The finished tables of a list. -/
def finishedItems :
    List (List (String × Node)) →
    List Document
  | [] => []
  | entries :: items => .table (finishedEntries entries) :: finishedItems items

end

end Phrasebook.Document.Toml
