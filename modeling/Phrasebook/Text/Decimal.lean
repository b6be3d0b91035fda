namespace Phrasebook.Text

/-!
# Decimal numbers in text
-/

/-- The number that decimal digits denote. -/
def decimalValue
    (digits : List Char) :
    Nat :=
  digits.foldl (fun value digit => value * 10 + (digit.toNat - '0'.toNat)) 0

/-- The digits of a number denote it. -/
theorem decimalValue_toDigits
    (value : Nat) :
    decimalValue (Nat.toDigits 10 value) = value := by
  have same :
      decimalValue (Nat.toDigits 10 value) =
        Nat.ofDigitChars 10 (Nat.toDigits 10 value) 0 := by
    simp only [decimalValue, Nat.ofDigitChars, Nat.mul_comm]
  rw [same, Nat.ofDigitChars_ten_toDigits]

/-- Whether a text is a nonempty run of decimal digits. -/
def isNumber
    (text : List Char) :
    Bool :=
  !text.isEmpty && text.all Char.isDigit

end Phrasebook.Text
