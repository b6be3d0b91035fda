namespace Phrasebook.LanguageTag

/-!
# Language tags

A tag names a language, then perhaps a script, then perhaps a region, then any number of
variants. Its subtags stand between hyphens or underscores. A subtag that could be a script or a
region counts as a variant where a script or a region may not stand any more.
-/

/-- Whether a character is an ASCII letter or digit. -/
def isAlphanumeric
    (character : Char) :
    Bool :=
  character.isAlpha || character.isDigit

/-- Whether a subtag names a language: two to eight letters, but not four. -/
def isLanguage
    (subtag : List Char) :
    Bool :=
  2 ≤ subtag.length && subtag.length ≤ 8 && subtag.length != 4 && subtag.all Char.isAlpha

/-- Whether a subtag may name a script: four letters. -/
def isScript
    (subtag : List Char) :
    Bool :=
  subtag.length == 4 && subtag.all Char.isAlpha

/-- Whether a subtag may name a region: two letters or three digits. -/
def isRegion
    (subtag : List Char) :
    Bool :=
  (subtag.length == 2 && subtag.all Char.isAlpha) ||
    (subtag.length == 3 && subtag.all Char.isDigit)

/-- Whether a subtag may name a variant: five to eight letters or digits, or four ASCII
characters that start with a digit or end with three letters or digits. -/
def isVariant
    (subtag : List Char) :
    Bool :=
  match subtag with
  | [first, second, third, fourth] =>
      subtag.all (·.toNat < 0x80) &&
        (first.isDigit ||
          (isAlphanumeric second && isAlphanumeric third && isAlphanumeric fourth))
  | _ => 5 ≤ subtag.length && subtag.length ≤ 8 && subtag.all isAlphanumeric

/-- How far a tag has been read: what its last subtag was. -/
inductive Progress where
  | language
  | script
  | regionOrVariant
  deriving Repr, DecidableEq

/-- Whether the subtags that follow may stand after what has been read. -/
def followsWell :
    Progress →
    List (List Char) →
    Bool
  | _, [] => true
  | .language, subtag :: subtags =>
      if isScript subtag then
        followsWell .script subtags
      else if isRegion subtag || isVariant subtag then
        followsWell .regionOrVariant subtags
      else
        false
  | .script, subtag :: subtags =>
      (isRegion subtag || isVariant subtag) && followsWell .regionOrVariant subtags
  | .regionOrVariant, subtag :: subtags =>
      isVariant subtag && followsWell .regionOrVariant subtags

/-- The subtags of a tag. -/
def subtags
    (tag : List Char) :
    List (List Char) :=
  tag.splitOnP (fun character => character == '-' || character == '_')

/-- Whether a text is a language tag. -/
def isValid
    (tag : List Char) :
    Bool :=
  match subtags tag with
  | [] => false
  | language :: rest => isLanguage language && followsWell .language rest

end Phrasebook.LanguageTag
