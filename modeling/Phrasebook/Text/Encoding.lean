namespace Phrasebook.Text

/-!
# Text files

A file that starts with a byte order mark is text in the encoding which the mark names: the mark
is dropped and whatever is malformed after it reads as the replacement character. Any other file
has to be well-formed UTF-8. A mark is looked for in files of three bytes or more.

Decoders answer one item for each scalar value or malformed piece, and `none` stands for the
latter; so one decoder serves both ways of reading.
-/

/-- The bytes of a character in UTF-8. -/
def utf8Bytes
    (character : Char) :
    List UInt8 :=
  let code := character.toNat
  if code < 0x80 then
    [UInt8.ofNat code]
  else if code < 0x800 then
    [UInt8.ofNat (0xC0 + code / 0x40), UInt8.ofNat (0x80 + code % 0x40)]
  else if code < 0x10000 then
    [UInt8.ofNat (0xE0 + code / 0x1000), UInt8.ofNat (0x80 + code / 0x40 % 0x40),
      UInt8.ofNat (0x80 + code % 0x40)]
  else
    [UInt8.ofNat (0xF0 + code / 0x40000), UInt8.ofNat (0x80 + code / 0x1000 % 0x40),
      UInt8.ofNat (0x80 + code / 0x40 % 0x40), UInt8.ofNat (0x80 + code % 0x40)]

/-- The bytes of a text in UTF-8. -/
def encodeUtf8
    (text : List Char) :
    List UInt8 :=
  text.flatMap utf8Bytes

/-- What the first byte of a sequence of several bytes announces: the bits it carries, the number
of bytes to follow, and the bounds of the next one. -/
structure Utf8Lead where
  bits : Nat
  following : Nat
  low : Nat
  high : Nat
  deriving Repr, DecidableEq

/-- The announcement of a lead byte; `none` where no sequence starts with the byte. The bounds
leave out overlong forms, surrogates and numbers beyond the last code point. -/
def utf8Lead?
    (byte : Nat) :
    Option Utf8Lead :=
  if 0xC2 ≤ byte ∧ byte ≤ 0xDF then
    some ⟨byte - 0xC0, 1, 0x80, 0xBF⟩
  else if byte = 0xE0 then
    some ⟨0, 2, 0xA0, 0xBF⟩
  else if byte = 0xED then
    some ⟨0xD, 2, 0x80, 0x9F⟩
  else if 0xE1 ≤ byte ∧ byte ≤ 0xEF then
    some ⟨byte - 0xE0, 2, 0x80, 0xBF⟩
  else if byte = 0xF0 then
    some ⟨0, 3, 0x90, 0xBF⟩
  else if 0xF1 ≤ byte ∧ byte ≤ 0xF3 then
    some ⟨byte - 0xF0, 3, 0x80, 0xBF⟩
  else if byte = 0xF4 then
    some ⟨4, 3, 0x80, 0x8F⟩
  else
    none

/-- Reads the continuation bytes of a sequence. A byte out of bounds ends it unfinished and is
left to be read again. -/
def utf8Continuation
    (bits : Nat) :
    (following : Nat) →
    (low high : Nat) →
    List UInt8 →
    Option Char × List UInt8
  | 0, _, _, bytes => (some (Char.ofNat bits), bytes)
  | _ + 1, _, _, [] => (none, [])
  | following + 1, low, high, byte :: bytes =>
      if low ≤ byte.toNat ∧ byte.toNat ≤ high then
        utf8Continuation (bits * 0x40 + (byte.toNat - 0x80)) following 0x80 0xBF bytes
      else
        (none, byte :: bytes)

/-- Reading continuation bytes leaves no more bytes than there were. -/
theorem length_utf8Continuation_le
    (bits following low high : Nat)
    (bytes : List UInt8) :
    (utf8Continuation bits following low high bytes).2.length ≤ bytes.length := by
  induction following generalizing bits low high bytes with
  | zero =>
      simp [utf8Continuation]
  | succ following inductionHypothesis =>
      cases bytes with
      | nil =>
          simp [utf8Continuation]
      | cons byte bytes =>
          simp only [utf8Continuation]
          split
          · exact Nat.le_succ_of_le (inductionHypothesis _ _ _ _)
          · simp

/-- The scalar values and malformed pieces of UTF-8. -/
def decodeUtf8 :
    List UInt8 →
    List (Option Char)
  | [] => []
  | byte :: bytes =>
      if byte.toNat < 0x80 then
        some (Char.ofNat byte.toNat) :: decodeUtf8 bytes
      else
        match utf8Lead? byte.toNat with
        | none => none :: decodeUtf8 bytes
        | some lead =>
            let sequence := utf8Continuation lead.bits lead.following lead.low lead.high bytes
            sequence.1 :: decodeUtf8 sequence.2
  termination_by bytes => bytes.length
  decreasing_by
    · simp
    · simp
    · exact Nat.lt_succ_of_le (length_utf8Continuation_le _ _ _ _ _)

/-- The order of the two bytes of a code unit. -/
inductive ByteOrder where
  | littleEndian
  | bigEndian
  deriving Repr, DecidableEq

/-- The 16-bit code units of a file, and whether a single byte is left over at its end. -/
def codeUnits
    (order : ByteOrder) :
    List UInt8 →
    List Nat × Bool
  | [] => ([], false)
  | [_] => ([], true)
  | first :: second :: bytes =>
      let unit :=
        match order with
        | .littleEndian => second.toNat * 0x100 + first.toNat
        | .bigEndian => first.toNat * 0x100 + second.toNat
      let (units, odd) := codeUnits order bytes
      (unit :: units, odd)

/-- Whether a code unit is the first of a surrogate pair. -/
def isHighSurrogate
    (unit : Nat) :
    Bool :=
  0xD800 ≤ unit && unit < 0xDC00

/-- Whether a code unit is the second of a surrogate pair. -/
def isLowSurrogate
    (unit : Nat) :
    Bool :=
  0xDC00 ≤ unit && unit < 0xE000

/-- The character of a surrogate pair. -/
def pairedSurrogates
    (high low : Nat) :
    Char :=
  Char.ofNat (0x10000 + (high - 0xD800) * 0x400 + (low - 0xDC00))

/-- The scalar values and malformed pieces of UTF-16. What an end of file cuts off is one piece,
be it half a pair, half a code unit, or both. -/
def decodeUtf16
    (odd : Bool) :
    List Nat →
    List (Option Char)
  | [] =>
      if odd then
        [none]
      else
        []
  | [unit] =>
      if isHighSurrogate unit then
        [none]
      else if isLowSurrogate unit then
        none :: decodeUtf16 odd []
      else
        some (Char.ofNat unit) :: decodeUtf16 odd []
  | unit :: next :: units =>
      if isHighSurrogate unit then
        if isLowSurrogate next then
          some (pairedSurrogates unit next) :: decodeUtf16 odd units
        else
          none :: decodeUtf16 odd (next :: units)
      else if isLowSurrogate unit then
        none :: decodeUtf16 odd (next :: units)
      else
        some (Char.ofNat unit) :: decodeUtf16 odd (next :: units)

/-- Scalar values with the replacement character for each malformed piece. -/
def withReplacements
    (items : List (Option Char)) :
    List Char :=
  items.map (·.getD '\uFFFD')

/-- Scalar values, if no piece is malformed. -/
def wellFormed? :
    List (Option Char) →
    Option (List Char)
  | [] => some []
  | none :: _ => none
  | some character :: items => (wellFormed? items).map (character :: ·)

/-- The text of a file whose first three bytes are known. -/
def decodeMarked
    (first second third : UInt8)
    (bytes : List UInt8) :
    Option (List Char) :=
  if first = 0xFF ∧ second = 0xFE then
    let (units, odd) := codeUnits .littleEndian (third :: bytes)
    some (withReplacements (decodeUtf16 odd units))
  else if first = 0xFE ∧ second = 0xFF then
    let (units, odd) := codeUnits .bigEndian (third :: bytes)
    some (withReplacements (decodeUtf16 odd units))
  else if first = 0xEF ∧ second = 0xBB ∧ third = 0xBF then
    some (withReplacements (decodeUtf8 bytes))
  else
    wellFormed? (decodeUtf8 (first :: second :: third :: bytes))

/-- The text of a file; `none` where a file without a byte order mark is not UTF-8. -/
def decodeFile? :
    List UInt8 →
    Option (List Char)
  | first :: second :: third :: bytes => decodeMarked first second third bytes
  | bytes => wellFormed? (decodeUtf8 bytes)

end Phrasebook.Text
