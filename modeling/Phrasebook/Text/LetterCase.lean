import Phrasebook.Text.LetterTables

namespace Phrasebook.Text

/-!
# Letter case

The full Unicode case mappings of single characters and of whole texts. A character may map to
several. Only one rule looks at the neighbours of a letter: in the lowercase form of a text, a
capital sigma that ends a word becomes a final sigma.
-/

/-- Whether a character has the property `Lowercase`. -/
def isLowercase
    (character : Char) :
    Bool :=
  inRuns lowercaseRuns character

/-- Whether a character has the property `Uppercase`. -/
def isUppercase
    (character : Char) :
    Bool :=
  inRuns uppercaseRuns character

/-- Whether a character has the property `Cased`. -/
def isCased
    (character : Char) :
    Bool :=
  inRuns casedRuns character

/-- Whether a character has the property `Case_Ignorable`. -/
def isCaseIgnorable
    (character : Char) :
    Bool :=
  inRuns caseIgnorableRuns character

/-- A character moved by the distance of the first run it belongs to. -/
def shifted
    (shifts : List CaseShift)
    (character : Char) :
    Char :=
  match shifts.find? (·.run.contains character.toNat) with
  | some shift => Char.ofNat (character.toNat + shift.distance).toNat
  | none => character

/-- A case mapping given by its expansions and its shifts. -/
def mapped
    (expansions : List (Nat × List Nat))
    (shifts : List CaseShift)
    (character : Char) :
    List Char :=
  match expansions.lookup character.toNat with
  | some codes => codes.map Char.ofNat
  | none => [shifted shifts character]

/-- The lowercase form of a single character. -/
def lowercase
    (character : Char) :
    List Char :=
  if character.toNat < 0x80 then
    [character.toLower]
  else
    mapped lowercaseExpansions lowercaseShifts character

/-- The uppercase form of a single character. -/
def uppercase
    (character : Char) :
    List Char :=
  if character.toNat < 0x80 then
    [character.toUpper]
  else
    mapped uppercaseExpansions uppercaseShifts character

/-- The uppercase form of a text. -/
def uppercaseText
    (text : List Char) :
    List Char :=
  text.flatMap uppercase

/-- Whether the next character that is not ignored for case is cased. -/
def startsCased
    (text : List Char) :
    Bool :=
  match text.dropWhile isCaseIgnorable with
  | [] => false
  | character :: _ => isCased character

/-- The lowercase form of a text of which `afterCased` says whether the last character before it
that is not ignored for case is cased. -/
def lowercaseFrom
    (afterCased : Bool) :
    List Char →
    List Char
  | [] => []
  | character :: text =>
      let lowered :=
        if character = 'Σ' then
          if afterCased && !startsCased text then
            ['ς']
          else
            ['σ']
        else
          lowercase character
      let nowCased :=
        if isCaseIgnorable character then
          afterCased
        else
          isCased character
      lowered ++ lowercaseFrom nowCased text

/-- The lowercase form of a text. -/
def lowercaseText
    (text : List Char) :
    List Char :=
  lowercaseFrom false text

end Phrasebook.Text
