import Phrasebook.Text.Encoding

namespace Phrasebook.Properties

/-!
# Escapes

A backslash and a letter denote a control character, a backslash and `u` with four hexadecimal
digits denote a UTF-16 code unit, and a backslash before anything else denotes what follows it. A
character above U+FFFF takes two code units that form a surrogate pair.

Decoding keeps apart what was written plainly and what was escaped, since only a plain bar
separates the variants of a value.
-/

/-- Why an escape denotes no character. -/
inductive EscapeFault where
  | malformed
  | unpaired (unit : Nat)
  deriving Repr, DecidableEq

namespace EscapeFault

/-- The four uppercase hexadecimal digits of a code unit. -/
def fourDigits
    (unit : Nat) :
    String :=
  let digits := (Nat.toDigits 16 unit).map Char.toUpper
  String.ofList (List.replicate (4 - digits.length) '0' ++ digits)

/-- The message of a fault. -/
def message :
    EscapeFault →
    String
  | .malformed => "malformed \\uxxxx encoding"
  | .unpaired unit => "unpaired surrogate \\u" ++ fourDigits unit

end EscapeFault

/-- The value of a hexadecimal digit in either case. -/
def hexadecimalValue?
    (character : Char) :
    Option Nat :=
  if character.isDigit then
    some (character.toNat - '0'.toNat)
  else if 'a' ≤ character ∧ character ≤ 'f' then
    some (character.toNat - 'a'.toNat + 10)
  else if 'A' ≤ character ∧ character ≤ 'F' then
    some (character.toNat - 'A'.toNat + 10)
  else
    none

/-- Reads as many hexadecimal digits as asked for, after digits of a value. -/
def readHexadecimal
    (value : Nat) :
    (count : Nat) →
    List Char →
    Except EscapeFault (Nat × List Char)
  | 0, text => .ok (value, text)
  | _ + 1, [] => .error .malformed
  | count + 1, character :: text =>
      match hexadecimalValue? character with
      | none => .error .malformed
      | some digit => readHexadecimal (value * 16 + digit) count text

/-- Reads the code unit of an escape, after its `u`. -/
def readUnit
    (text : List Char) :
    Except EscapeFault (Nat × List Char) :=
  readHexadecimal 0 4 text

/-- Reads the second half of a surrogate pair. -/
def readLowSurrogate
    (high : Nat) :
    List Char →
    Except EscapeFault (Char × List Char)
  | '\\' :: 'u' :: text =>
      match readUnit text with
      | .error fault => .error fault
      | .ok (low, rest) =>
          if Text.isLowSurrogate low then
            .ok (Text.pairedSurrogates high low, rest)
          else
            .error (.unpaired high)
  | _ => .error (.unpaired high)

/-- Reads the character of an escape, after its `u`. -/
def readUnicode
    (text : List Char) :
    Except EscapeFault (Char × List Char) :=
  match readUnit text with
  | .error fault => .error fault
  | .ok (unit, rest) =>
      if Text.isHighSurrogate unit then
        readLowSurrogate unit rest
      else if Text.isLowSurrogate unit then
        .error (.unpaired unit)
      else
        .ok (Char.ofNat unit, rest)

/-- Reading hexadecimal digits leaves no more text than there was. -/
theorem length_readHexadecimal_le
    {value count : Nat}
    {text : List Char}
    {found : Nat × List Char}
    (read : readHexadecimal value count text = .ok found) :
    found.2.length ≤ text.length := by
  induction count generalizing value text with
  | zero =>
      simp only [readHexadecimal, Except.ok.injEq] at read
      exact Nat.le_of_eq (by rw [← read])
  | succ count inductionHypothesis =>
      cases text with
      | nil =>
          simp [readHexadecimal] at read
      | cons character text =>
          simp only [readHexadecimal] at read
          split at read
          · simp at read
          · exact Nat.le_succ_of_le (inductionHypothesis read)

/-- Reading a low surrogate leaves no more text than there was. -/
theorem length_readLowSurrogate_le
    {high : Nat}
    {text : List Char}
    {found : Char × List Char}
    (read : readLowSurrogate high text = .ok found) :
    found.2.length ≤ text.length := by
  unfold readLowSurrogate at read
  split at read
  · split at read
    · simp at read
    · next escaped low rest unitRead =>
        split at read
        · simp only [Except.ok.injEq] at read
          rw [← read]
          have shorter : rest.length ≤ _ := length_readHexadecimal_le unitRead
          simp only [List.length_cons]
          omega
        · simp at read
  · simp at read

/-- Reading the character of an escape leaves no more text than there was. -/
theorem length_readUnicode_le
    {text : List Char}
    {found : Char × List Char}
    (read : readUnicode text = .ok found) :
    found.2.length ≤ text.length := by
  unfold readUnicode at read
  split at read
  · simp at read
  · next unit rest unitRead =>
      have shorter := length_readHexadecimal_le unitRead
      split at read
      · exact Nat.le_trans (length_readLowSurrogate_le read) shorter
      · split at read
        · simp at read
        · simp only [Except.ok.injEq] at read
          rw [← read]
          exact shorter

/-- A decoded character and whether it was written plainly. -/
structure Glyph where
  character : Char
  plain : Bool
  deriving Repr, DecidableEq

/-- The character denoted by a backslash and a character other than `u`. -/
def escapedCharacter :
    Char →
    Char
  | 't' => '\t'
  | 'n' => '\n'
  | 'r' => '\r'
  | 'f' => '\x0c'
  | character => character

/-- The characters that a written text denotes. A backslash at its very end denotes nothing. -/
def decode :
    List Char →
    Except EscapeFault (List Glyph)
  | [] => .ok []
  | ['\\'] => .ok []
  | '\\' :: 'u' :: text =>
      match _read : readUnicode text with
      | .error fault => .error fault
      | .ok (character, rest) => (decode rest).map (⟨character, false⟩ :: ·)
  | '\\' :: character :: text =>
      (decode text).map (⟨escapedCharacter character, false⟩ :: ·)
  | character :: text => (decode text).map (⟨character, true⟩ :: ·)
  termination_by text => text.length
  decreasing_by
    · have noLonger : rest.length ≤ _ := length_readUnicode_le _read
      simp only [List.length_cons]
      omega
    all_goals
      simp only [List.length_cons]
      omega

/-- The key that a written text denotes. -/
def decodeKey
    (written : List Char) :
    Except EscapeFault String :=
  (decode written).map fun glyphs => String.ofList (glyphs.map Glyph.character)

/-- Whether a glyph separates two variants: a bar that was written plainly. -/
def isVariantBar
    (glyph : Glyph) :
    Bool :=
  glyph.plain && glyph.character == '|'

/-- The variants that a written value denotes; there is always at least one. -/
def decodeVariants
    (written : List Char) :
    Except EscapeFault (List String) :=
  (decode written).map fun glyphs =>
    (glyphs.splitOnP isVariantBar).map fun variant =>
      String.ofList (variant.map Glyph.character)

end Phrasebook.Properties
