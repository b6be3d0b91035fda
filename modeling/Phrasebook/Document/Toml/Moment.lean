import Phrasebook.Text.Decimal

namespace Phrasebook.Document.Toml

/-!
# Days and times

A moment is a day of the calendar, a time of day, or a day and a time, which then may say how far
it is from universal time. A day has to exist in its month, and the last minute of a day may have
a leap second.
-/

/-- The shape of a word: every digit is replaced by a zero. -/
def shape
    (word : List Char) :
    String :=
  String.ofList (word.map fun character =>
    if character.isDigit then
      '0'
    else
      character)

/-- Whether a year has a day more than others. -/
def isLeapYear
    (year : Nat) :
    Bool :=
  year % 4 == 0 && (year % 100 != 0 || year % 400 == 0)

/-- The number of days of a month. -/
def daysOfMonth
    (year month : Nat) :
    Nat :=
  if month = 2 then
    if isLeapYear year then
      29
    else
      28
  else if [4, 6, 9, 11].contains month then
    30
  else
    31

/-- Whether a word is a day. -/
def isDay
    (word : List Char) :
    Bool :=
  let year := Text.decimalValue (word.take 4)
  let month := Text.decimalValue ((word.drop 5).take 2)
  let day := Text.decimalValue (word.drop 8)
  shape word == "0000-00-00" && 1 ≤ month && month ≤ 12 && 1 ≤ day && day ≤ daysOfMonth year month

/-- Whether a word is an hour and a minute. -/
def isHourAndMinute
    (word : List Char) :
    Bool :=
  shape word == "00:00" && Text.decimalValue (word.take 2) ≤ 23 &&
    Text.decimalValue (word.drop 3) ≤ 59

/-- Whether a word is a difference from universal time. -/
def isTimeOffset
    (word : List Char) :
    Bool :=
  match word with
  | ['Z'] => true
  | ['z'] => true
  | '+' :: difference => isHourAndMinute difference
  | '-' :: difference => isHourAndMinute difference
  | _ => false

/-- What follows the digits after a point, if there are any. -/
def afterFraction
    (word : List Char) :
    List Char :=
  match word with
  | '.' :: digit :: rest =>
      if digit.isDigit then
        rest.dropWhile Char.isDigit
      else
        word
  | _ => word

/-- Whether a word is a time of day, which may be followed by a difference from universal time. -/
def isTime
    (mayHaveOffset : Bool)
    (word : List Char) :
    Bool :=
  let second := (word.drop 5).take 3
  let rest := afterFraction (word.drop 8)
  isHourAndMinute (word.take 5) && shape second == ":00" &&
    Text.decimalValue (second.drop 1) ≤ 60 &&
    (rest.isEmpty || (mayHaveOffset && isTimeOffset rest))

/-- Whether a word is a day, a time, or both. -/
def isMoment
    (word : List Char) :
    Bool :=
  isDay word || isTime false word ||
    (isDay (word.take 10) && ((word[10]? == some 'T') || (word[10]? == some 't')) &&
      isTime true (word.drop 11))

end Phrasebook.Document.Toml
