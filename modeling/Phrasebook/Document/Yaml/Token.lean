import Phrasebook.Document.Yaml.Directive

namespace Phrasebook.Document.Yaml

/-!
# Tokens of YAML

Scalars, marks, and what the indentation says: outside of brackets a list or a table starts where
the indentation grows and ends where it shrinks. Every key has a mark in front of it, whether one
was written or not.
-/

/-- A scalar, a mark or a change of the indentation. -/
inductive Token where
  | directive (value : Directive)
  | documentStart
  | documentEnd
  | listStart
  | tableStart
  | indentEnd
  | opensList
  | closesList
  | opensTable
  | closesTable
  | item
  | comma
  | key
  | value
  | alias (name : String)
  | anchor (name : String)
  | tag (written : WrittenTag)
  | scalar (content : String) (style : ScalarStyle)
  deriving Repr, DecidableEq

end Phrasebook.Document.Yaml
