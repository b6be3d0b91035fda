namespace Phrasebook.Document

/-!
# Scalars that their reader interprets

In some formats a scalar is only text, and whoever needs a number, a truth value or nothing decides
whether the text is one. How the scalar was written limits what it may be: without quotation marks
it may be anything, as lines that are kept it may be what its tag says, and otherwise it is text.
-/

/-- How a scalar was written: on its own, between quotation marks or as folded lines, or as lines
that are kept. -/
inductive ScalarStyle where
  | plain
  | quoted
  | keptLines
  deriving Repr, DecidableEq

/-- What a tag says about its scalar. A choice names one of several possibilities. -/
inductive ScalarTag where
  | nothing
  | boolean
  | integer
  | choice (name : String)
  | unrelated
  deriving Repr, DecidableEq

/-- A scalar of a format in which the reader decides what it is. -/
structure Scalar where
  content : String
  style : ScalarStyle := .plain
  tag : Option ScalarTag := none
  deriving Repr, DecidableEq

/-- The largest count that can be configured. -/
def largestCount :
    Nat :=
  18446744073709551615

/-- The number that some digits denote in a base, unless one of them is no digit of the base. -/
def numberInBase?
    (base : Nat)
    (digits : List Char) :
    Option Nat :=
  if digits.isEmpty then
    none
  else
    digits.foldlM
      (fun value digit =>
        let worth :=
          if digit.isDigit then
            digit.toNat - '0'.toNat
          else if digit.isAlpha then
            digit.toLower.toNat - 'a'.toNat + 10
          else
            base
        if worth < base then
          some (value * base + worth)
        else
          none)
      0

namespace Scalar

/-- Whether a scalar is missing altogether. -/
def isMissing
    (scalar : Scalar) :
    Bool :=
  scalar.style == .plain && scalar.content.isEmpty

/-- Whether the text of a scalar is a name of nothing. -/
def namesNothing
    (scalar : Scalar) :
    Bool :=
  ["~", "null", "Null", "NULL"].contains scalar.content

/-- Whether a scalar, whatever its tag, says that there is nothing. -/
def isNothing
    (scalar : Scalar) :
    Bool :=
  scalar.style == .plain && (scalar.content.isEmpty || scalar.namesNothing)

/-- Whether a scalar stands for the absence of a value, unless its tag is at odds with its text. -/
def isAbsent?
    (scalar : Scalar) :
    Option Bool :=
  match scalar.style, scalar.tag with
  | .plain, none => some scalar.isNothing
  | .plain, some .nothing =>
      if scalar.namesNothing then
        some true
      else
        none
  | _, _ => some false

/-- Whether a scalar may be what a tag says. -/
def mayBe
    (scalar : Scalar)
    (tag : ScalarTag) :
    Bool :=
  match scalar.style with
  | .plain => true
  | .keptLines => scalar.tag == some tag
  | .quoted => false

/-- The truth value that a scalar denotes. -/
def boolean?
    (scalar : Scalar) :
    Option Bool :=
  if !scalar.mayBe .boolean then
    none
  else if ["true", "True", "TRUE"].contains scalar.content then
    some true
  else if ["false", "False", "FALSE"].contains scalar.content then
    some false
  else
    none

/-- The number that digits without a sign denote. A number with leading zeros is text. -/
def unsigned? :
    List Char →
    Option Nat
  | '0' :: 'x' :: digits => numberInBase? 16 digits
  | '0' :: 'o' :: digits => numberInBase? 8 digits
  | '0' :: 'b' :: digits => numberInBase? 2 digits
  | ['0'] => some 0
  | '0' :: _ => none
  | digits => numberInBase? 10 digits

/-- The count that a scalar denotes. -/
def count?
    (scalar : Scalar) :
    Option Nat :=
  if scalar.mayBe .integer then
    let found :=
      match scalar.content.toList with
      | '+' :: digits => unsigned? digits
      | digits => unsigned? digits
    found.filter (· ≤ largestCount)
  else
    none

end Scalar

end Phrasebook.Document
