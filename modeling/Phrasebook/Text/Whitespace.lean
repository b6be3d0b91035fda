namespace Phrasebook.Text

/-!
# White space

The characters with the Unicode property `White_Space`, and the two ways in which text is cleared
of them: at both ends, or down to single spaces between words.
-/

/-- Whether a character has the Unicode property `White_Space`. -/
def isWhitespace
    (character : Char) :
    Bool :=
  let code := character.toNat
  (0x09 ≤ code && code ≤ 0x0D) ||
    code == 0x20 || code == 0x85 || code == 0xA0 || code == 0x1680 ||
    (0x2000 ≤ code && code ≤ 0x200A) ||
    code == 0x2028 || code == 0x2029 || code == 0x202F || code == 0x205F || code == 0x3000

/-- A text without the white space at its two ends. -/
def trim
    (text : List Char) :
    List Char :=
  (((text.dropWhile isWhitespace).reverse).dropWhile isWhitespace).reverse

/-- The longest runs of characters other than white space, in order. -/
def words
    (text : List Char) :
    List (List Char) :=
  (text.splitOnP isWhitespace).filter (!·.isEmpty)

/-- The words of a text with one space between neighbours. -/
def collapseWhitespace
    (text : List Char) :
    List Char :=
  [' '].intercalate (words text)

end Phrasebook.Text
