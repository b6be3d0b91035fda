import Phrasebook.Document.Scalar
import Phrasebook.Text.Decimal

namespace Phrasebook.Document.Toml

/-!
# Numbers in TOML

Whole numbers have 64 bits and may be written in four bases; other numbers are written in decimal,
with a point, an exponent or both, and have to be near enough to zero to have a place among the
numbers of double precision. Single underscores may stand between digits.
-/

/-- The digits of a number without the underscores between them. -/
def withoutSeparators?
    (word : List Char) :
    Option (List Char) :=
  let groups := word.splitOnP (· == '_')
  if groups.any List.isEmpty then
    none
  else
    some groups.flatten

/-- The digits of a run of decimal digits, with or without leading zeros. -/
def digits?
    (word : List Char) :
    Option (List Char) :=
  (withoutSeparators? word).filter (·.all Char.isDigit)

/-- The digits of a decimal number that has no leading zeros. -/
def wholeDigits?
    (word : List Char) :
    Option (List Char) :=
  (digits? word).filter fun digits => digits.length == 1 || digits.head? != some '0'

/-- Whether a word has a minus sign, and the rest of it without a sign. -/
def splitSign :
    List Char →
    Bool × List Char
  | '-' :: word => (true, word)
  | '+' :: word => (false, word)
  | word => (false, word)

/-- The number of a word without a sign. -/
def unsignedInteger?
    (word : List Char) :
    Option Nat :=
  match word with
  | '0' :: 'x' :: digits => (withoutSeparators? digits).bind (numberInBase? 16)
  | '0' :: 'o' :: digits => (withoutSeparators? digits).bind (numberInBase? 8)
  | '0' :: 'b' :: digits => (withoutSeparators? digits).bind (numberInBase? 2)
  | word => (wholeDigits? word).bind (numberInBase? 10)

/-- The 64-bit number that a word is. -/
def integer?
    (word : List Char) :
    Option Int :=
  let (negative, digits) := splitSign word
  let signed := digits.length < word.length
  let based := digits.head? == some '0' && 1 < digits.length
  if signed && based then
    none
  else
    match unsignedInteger? digits with
    | none => none
    | some number =>
        let value : Int := if negative then -number else number
        if -9223372036854775808 ≤ value ∧ value ≤ 9223372036854775807 then
          some value
        else
          none

/-- The size of a decimal number: a whole number times a power of ten. -/
structure Magnitude where
  digits : List Char
  power : Int

/-- The size of a number before its exponent, which has at least one digit on either side of a
point. -/
def mantissa?
    (word : List Char) :
    Option Magnitude :=
  match word.splitOnP (· == '.') with
  | [whole] => (wholeDigits? whole).map fun digits => ⟨digits, 0⟩
  | [whole, fraction] =>
      match wholeDigits? whole, digits? fraction with
      | some digits, some places => some ⟨digits ++ places, -places.length⟩
      | _, _ => none
  | _ => none

/-- The power of ten of an exponent after its letter. -/
def exponent?
    (word : List Char) :
    Option Int :=
  let (negative, unsigned) := splitSign word
  (digits? unsigned).map fun digits =>
    if negative then
      -(Text.decimalValue digits : Int)
    else
      Text.decimalValue digits

/-- The size of a number that is written with a point or an exponent, without its sign. -/
def magnitude?
    (word : List Char) :
    Option Magnitude :=
  match word.splitOnP (fun letter => letter == 'e' || letter == 'E') with
  | [mantissa] =>
      if mantissa.contains '.' then
        mantissa? mantissa
      else
        none
  | [mantissa, exponent] =>
      match mantissa? mantissa, exponent? exponent with
      | some magnitude, some power => some { magnitude with power := magnitude.power + power }
      | _, _ => none
  | _ => none

/-- The least number that is rounded to infinity in double precision. It lies half way between the
greatest number of double precision and the next power of two. -/
def infinityThreshold :
    Nat :=
  Nat.pow 2 1024 - Nat.pow 2 970

/-- Whether a number is rounded to infinity in double precision. The threshold has 309 digits
before the point, so only a number with as many has to be compared with it. -/
def Magnitude.isInfinite
    (magnitude : Magnitude) :
    Bool :=
  let digits := magnitude.digits.dropWhile (· == '0')
  let places := digits.length + magnitude.power
  if digits.isEmpty || places < 309 then
    false
  else if 309 < places then
    true
  else if 0 ≤ magnitude.power then
    infinityThreshold ≤ Text.decimalValue digits * Nat.pow 10 magnitude.power.toNat
  else
    infinityThreshold * Nat.pow 10 (-magnitude.power).toNat ≤ Text.decimalValue digits

/-- Whether a word is a number with a point or an exponent, or one of the words for what is no
number. A positive number that is rounded to infinity is refused. -/
def isDecimal
    (word : List Char) :
    Bool :=
  let (negative, unsigned) := splitSign word
  if unsigned == ['i', 'n', 'f'] || unsigned == ['n', 'a', 'n'] then
    true
  else
    match magnitude? unsigned with
    | none => false
    | some magnitude => negative || !magnitude.isInfinite

end Phrasebook.Document.Toml
