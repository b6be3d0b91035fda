import Mathlib.Data.List.Basic
import Phrasebook.Text.Encoding

namespace Phrasebook.Text

/-!
# Encoded texts

Decoding undoes encoding: a reader of bytes or code units that meets those of a character answers
the character and goes on after them, whatever follows. So a file reads as the text it holds in any
of the supported encodings. A byte order mark at its start is dropped, and a text without one does
not start with bytes that look like one.
-/

theorem toNat_range
    (character : Char) :
    character.toNat < 0xD800 ∨ 0xDFFF < character.toNat ∧ character.toNat < 0x110000 :=
  character.valid

/-- A character is no half of a surrogate pair. -/
theorem no_surrogate
    (character : Char) :
    isHighSurrogate character.toNat = false ∧ isLowSurrogate character.toNat = false := by
  have range := toNat_range character
  simp only [isHighSurrogate, isLowSurrogate, Bool.and_eq_false_iff, decide_eq_false_iff_not]
  omega

/-! ## UTF-8 -/

/-- A continuation byte adds its bits. -/
theorem utf8Continuation_cons
    {low high value : Nat}
    (isLow : low ≤ 0x80 + value)
    (isHigh : 0x80 + value ≤ high)
    (isShort : value < 0x40)
    (bits following : Nat)
    (bytes : List UInt8) :
    utf8Continuation bits (following + 1) low high (UInt8.ofNat (0x80 + value) :: bytes) =
      utf8Continuation (bits * 0x40 + value) following 0x80 0xBF bytes := by
  have byte : (UInt8.ofNat (0x80 + value)).toNat = 0x80 + value :=
    UInt8.toNat_ofNat_of_lt' (show _ < 0x100 by omega)
  rw [utf8Continuation, byte, if_pos ⟨isLow, isHigh⟩, Nat.add_sub_cancel_left]

/-- Whether a byte leads a sequence with the bits of the byte and of the next one given. -/
def Leads
    (byte bits following next : Nat) :
    Prop :=
  ∃ low high,
    utf8Lead? byte = some ⟨bits, following, low, high⟩ ∧ low ≤ 0x80 + next ∧ 0x80 + next ≤ high

theorem leads_two
    {code : Nat}
    (isLong : 0x80 ≤ code)
    (isShort : code < 0x800) :
    Leads (0xC0 + code / 0x40) (code / 0x40) 1 (code % 0x40) := by
  refine ⟨0x80, 0xBF, ?_, by omega, by omega⟩
  rw [utf8Lead?, if_pos (by omega), Nat.add_sub_cancel_left]

/-- The bounds for the second byte leave room for all characters with three bytes. -/
theorem leads_three
    {code : Nat}
    (isLong : 0x800 ≤ code)
    (isShort : code < 0x10000)
    (noSurrogate : code < 0xD800 ∨ 0xDFFF < code) :
    Leads (0xE0 + code / 0x1000) (code / 0x1000) 2 (code / 0x40 % 0x40) := by
  unfold Leads utf8Lead?
  rw [if_neg (by omega)]
  by_cases lowest : code / 0x1000 = 0
  · exact ⟨0xA0, 0xBF, by simp [lowest], by omega, by omega⟩
  by_cases surrogates : code / 0x1000 = 0xD
  · exact ⟨0x80, 0x9F, by simp [surrogates], by omega, by omega⟩
  · refine ⟨0x80, 0xBF, ?_, by omega, by omega⟩
    rw [if_neg (by omega), if_neg (by omega), if_pos (by omega), Nat.add_sub_cancel_left]

/-- The bounds for the second byte leave room for all characters with four bytes. -/
theorem leads_four
    {code : Nat}
    (isLong : 0x10000 ≤ code)
    (isCode : code < 0x110000) :
    Leads (0xF0 + code / 0x40000) (code / 0x40000) 3 (code / 0x1000 % 0x40) := by
  unfold Leads utf8Lead?
  rw [if_neg (by omega), if_neg (by omega), if_neg (by omega), if_neg (by omega)]
  by_cases lowest : code / 0x40000 = 0
  · exact ⟨0x90, 0xBF, by simp [lowest], by omega, by omega⟩
  by_cases highest : code / 0x40000 = 4
  · exact ⟨0x80, 0x8F, by simp [highest], by omega, by omega⟩
  · refine ⟨0x80, 0xBF, ?_, by omega, by omega⟩
    rw [if_neg (by omega), if_pos (by omega), Nat.add_sub_cancel_left]

/-- A sequence of several bytes reads as the character that its continuation bytes lead to. -/
theorem decodeUtf8_of_leads
    {byte bits following next : Nat}
    {character : Char}
    {rest bytes : List UInt8}
    (leads : Leads byte bits (following + 1) next)
    (isLong : 0x80 ≤ byte)
    (isByte : byte < 0x100)
    (isShort : next < 0x40)
    (continues :
      utf8Continuation (bits * 0x40 + next) following 0x80 0xBF rest = (some character, bytes)) :
    decodeUtf8 (UInt8.ofNat byte :: UInt8.ofNat (0x80 + next) :: rest) =
      some character :: decodeUtf8 bytes := by
  obtain ⟨low, high, announced, isLow, isHigh⟩ := leads
  rw [decodeUtf8, UInt8.toNat_ofNat_of_lt' isByte, if_neg (Nat.not_lt.mpr isLong), announced]
  simp only [utf8Continuation_cons isLow isHigh isShort, continues]

theorem decodeUtf8_utf8Bytes
    (character : Char)
    (bytes : List UInt8) :
    decodeUtf8 (utf8Bytes character ++ bytes) = some character :: decodeUtf8 bytes := by
  have range := toNat_range character
  have whole : Char.ofNat character.toNat = character := Char.ofNat_toNat character
  unfold utf8Bytes
  generalize character.toNat = code at range whole
  by_cases one : code < 0x80
  · simp only [if_pos one, List.cons_append, List.nil_append]
    rw [decodeUtf8, UInt8.toNat_ofNat_of_lt' (show _ < 0x100 by omega), if_pos one, whole]
  by_cases two : code < 0x800
  · have bits : code / 0x40 * 0x40 + code % 0x40 = code := by omega
    simp only [if_neg one, if_pos two, List.cons_append, List.nil_append]
    refine decodeUtf8_of_leads (leads_two (by omega) two) (by omega) (by omega) (by omega) ?_
    rw [utf8Continuation, bits, whole]
  by_cases three : code < 0x10000
  · have bits :
        (code / 0x1000 * 0x40 + code / 0x40 % 0x40) * 0x40 + code % 0x40 = code := by omega
    simp only [if_neg one, if_neg two, if_pos three, List.cons_append, List.nil_append]
    refine decodeUtf8_of_leads (leads_three (by omega) three (by omega)) (by omega) (by omega)
      (by omega) ?_
    rw [utf8Continuation_cons (by omega) (by omega) (by omega), utf8Continuation, bits, whole]
  · have bits :
        ((code / 0x40000 * 0x40 + code / 0x1000 % 0x40) * 0x40 + code / 0x40 % 0x40) * 0x40 +
          code % 0x40 = code := by omega
    simp only [if_neg one, if_neg two, if_neg three, List.cons_append, List.nil_append]
    refine decodeUtf8_of_leads (leads_four (by omega) (by omega)) (by omega) (by omega)
      (by omega) ?_
    rw [utf8Continuation_cons (by omega) (by omega) (by omega),
      utf8Continuation_cons (by omega) (by omega) (by omega), utf8Continuation, bits, whole]

theorem decodeUtf8_encodeUtf8
    (text : List Char) :
    decodeUtf8 (encodeUtf8 text) = text.map some := by
  induction text with
  | nil =>
      rw [encodeUtf8, List.flatMap_nil, decodeUtf8]
      rfl
  | cons character text inductionHypothesis =>
      rw [encodeUtf8, List.flatMap_cons, decodeUtf8_utf8Bytes, ← encodeUtf8, inductionHypothesis]
      rfl

/-! ## UTF-16 -/

/-- The code units of a character in UTF-16: a surrogate pair where one unit is too short. -/
def utf16Units
    (character : Char) :
    List Nat :=
  let code := character.toNat
  if code < 0x10000 then
    [code]
  else
    [0xD800 + (code - 0x10000) / 0x400, 0xDC00 + (code - 0x10000) % 0x400]

/-- The two bytes of a code unit. -/
def unitBytes
    (order : ByteOrder)
    (unit : Nat) :
    List UInt8 :=
  match order with
  | .littleEndian => [UInt8.ofNat (unit % 0x100), UInt8.ofNat (unit / 0x100)]
  | .bigEndian => [UInt8.ofNat (unit / 0x100), UInt8.ofNat (unit % 0x100)]

/-- The bytes of a text in UTF-16. -/
def encodeUtf16
    (order : ByteOrder)
    (text : List Char) :
    List UInt8 :=
  (text.flatMap utf16Units).flatMap (unitBytes order)

theorem encodeUtf16_ne_nil
    (order : ByteOrder)
    {text : List Char}
    (notEmpty : text ≠ []) :
    encodeUtf16 order text ≠ [] := by
  obtain ⟨character, rest, rfl⟩ := List.exists_cons_of_ne_nil notEmpty
  have noUnits : utf16Units character ≠ [] := by
    simp only [utf16Units]
    split <;> exact List.cons_ne_nil _ _
  obtain ⟨unit, units, shape⟩ := List.exists_cons_of_ne_nil noUnits
  rw [encodeUtf16, List.flatMap_cons, shape]
  cases order <;> exact List.cons_ne_nil _ _

theorem lt_of_mem_utf16Units
    {character : Char}
    {unit : Nat}
    (isMember : unit ∈ utf16Units character) :
    unit < 0x10000 := by
  have range := toNat_range character
  simp only [utf16Units] at isMember
  generalize character.toNat = code at range isMember
  split at isMember
  · rw [List.mem_singleton.mp isMember]
    assumption
  · rw [List.mem_pair] at isMember
    omega

theorem codeUnits_unitBytes
    {order : ByteOrder}
    {unit : Nat}
    (isUnit : unit < 0x10000)
    (bytes : List UInt8) :
    codeUnits order (unitBytes order unit ++ bytes) =
      (unit :: (codeUnits order bytes).1, (codeUnits order bytes).2) := by
  have lower := UInt8.toNat_ofNat_of_lt' (show unit % 0x100 < 0x100 by omega)
  have upper := UInt8.toNat_ofNat_of_lt' (show unit / 0x100 < 0x100 by omega)
  have whole : unit / 0x100 * 0x100 + unit % 0x100 = unit := by omega
  cases order with
  | littleEndian =>
      simp only [unitBytes, List.cons_append, List.nil_append, codeUnits, lower, upper, whole]
  | bigEndian =>
      simp only [unitBytes, List.cons_append, List.nil_append, codeUnits, lower, upper, whole]

theorem codeUnits_flatMap_unitBytes
    (order : ByteOrder)
    {units : List Nat}
    (areUnits : ∀ unit ∈ units, unit < 0x10000) :
    codeUnits order (units.flatMap (unitBytes order)) = (units, false) := by
  induction units with
  | nil =>
      rfl
  | cons unit units inductionHypothesis =>
      rw [List.forall_mem_cons] at areUnits
      rw [List.flatMap_cons, codeUnits_unitBytes areUnits.1, inductionHypothesis areUnits.2]

theorem codeUnits_encodeUtf16
    (order : ByteOrder)
    (text : List Char) :
    codeUnits order (encodeUtf16 order text) = (text.flatMap utf16Units, false) := by
  refine codeUnits_flatMap_unitBytes order fun unit isMember => ?_
  obtain ⟨character, -, isUnit⟩ := List.mem_flatMap.mp isMember
  exact lt_of_mem_utf16Units isUnit

theorem decodeUtf16_utf16Units
    (odd : Bool)
    (character : Char)
    (units : List Nat) :
    decodeUtf16 odd (utf16Units character ++ units) =
      some character :: decodeUtf16 odd units := by
  obtain ⟨noHigh, noLow⟩ := no_surrogate character
  have range := toNat_range character
  have whole : Char.ofNat character.toNat = character := Char.ofNat_toNat character
  unfold utf16Units
  generalize character.toNat = code at range whole noHigh noLow
  by_cases single : code < 0x10000
  · simp only [if_pos single, List.cons_append, List.nil_append]
    cases units with
    | nil =>
        simp [decodeUtf16, noHigh, noLow, whole]
    | cons next units =>
        simp [decodeUtf16, noHigh, noLow, whole]
  · have isHigh : isHighSurrogate (0xD800 + (code - 0x10000) / 0x400) := by
      simp only [isHighSurrogate, Bool.and_eq_true, decide_eq_true_eq]
      omega
    have isLow : isLowSurrogate (0xDC00 + (code - 0x10000) % 0x400) := by
      simp only [isLowSurrogate, Bool.and_eq_true, decide_eq_true_eq]
      omega
    have paired :
        0x10000 + (0xD800 + (code - 0x10000) / 0x400 - 0xD800) * 0x400 +
          (0xDC00 + (code - 0x10000) % 0x400 - 0xDC00) = code := by
      omega
    simp only [if_neg single, List.cons_append, List.nil_append]
    rw [decodeUtf16, if_pos isHigh, if_pos isLow, pairedSurrogates, paired, whole]

theorem decodeUtf16_flatMap_utf16Units
    (text : List Char) :
    decodeUtf16 false (text.flatMap utf16Units) = text.map some := by
  induction text with
  | nil =>
      rfl
  | cons character text inductionHypothesis =>
      rw [List.flatMap_cons, decodeUtf16_utf16Units, inductionHypothesis]
      rfl

/-! ## Files -/

theorem wellFormed?_map_some
    (text : List Char) :
    wellFormed? (text.map some) = some text := by
  induction text with
  | nil =>
      rfl
  | cons character text inductionHypothesis =>
      rw [List.map_cons, wellFormed?, inductionHypothesis]
      rfl

theorem withReplacements_map_some
    (text : List Char) :
    withReplacements (text.map some) = text := by
  simp [withReplacements, Function.comp_def]

/-- The encodings that a file can be in. -/
inductive Encoding where
  | utf8
  | markedUtf8
  | utf16 (order : ByteOrder)
  deriving Repr, DecidableEq

namespace Encoding

/-- The byte order mark of a file. -/
def mark :
    Encoding →
    List UInt8
  | .utf8 => []
  | .markedUtf8 => [0xEF, 0xBB, 0xBF]
  | .utf16 .littleEndian => [0xFF, 0xFE]
  | .utf16 .bigEndian => [0xFE, 0xFF]

/-- The bytes of a text without a mark. -/
def encode :
    Encoding →
    List Char →
    List UInt8
  | .utf8, text => encodeUtf8 text
  | .markedUtf8, text => encodeUtf8 text
  | .utf16 order, text => encodeUtf16 order text

/-- The bytes of a file that holds a text. -/
def bytes
    (encoding : Encoding)
    (text : List Char) :
    List UInt8 :=
  encoding.mark ++ encoding.encode text

end Encoding

/-- A mark is the character U+FEFF at the start of a file. -/
example : Encoding.markedUtf8.mark = encodeUtf8 ['\uFEFF'] := by decide

example (order : ByteOrder) : (Encoding.utf16 order).mark = encodeUtf16 order ['\uFEFF'] := by
  cases order <;> decide

/-- No text starts with a byte that leads nothing in UTF-8. -/
theorem encodeUtf8_ne_cons
    {byte : UInt8}
    (isLong : 0x80 ≤ byte.toNat)
    (noLead : utf8Lead? byte.toNat = none)
    (text : List Char)
    (bytes : List UInt8) :
    encodeUtf8 text ≠ byte :: bytes := by
  intro shape
  have decoded := decodeUtf8_encodeUtf8 text
  rw [shape, decodeUtf8, if_neg (Nat.not_lt.mpr isLong), noLead] at decoded
  cases text with
  | nil =>
      cases decoded
  | cons character text =>
      cases decoded

/-- A text whose bytes start with the mark of UTF-8 starts with the character U+FEFF. -/
theorem head?_of_encodeUtf8_eq
    {text : List Char}
    {bytes : List UInt8}
    (marked : encodeUtf8 text = 0xEF :: 0xBB :: 0xBF :: bytes) :
    text.head? = some '\uFEFF' := by
  have decoded : decodeUtf8 (encodeUtf8 text) = some '\uFEFF' :: decodeUtf8 bytes := by
    rw [marked]
    exact decodeUtf8_utf8Bytes '\uFEFF' bytes
  rw [decodeUtf8_encodeUtf8] at decoded
  cases text with
  | nil =>
      cases decoded
  | cons character text =>
      exact (List.cons.inj decoded).1

theorem decodeFile?_encodeUtf8
    {text : List Char}
    (noMark : text.head? ≠ some '\uFEFF') :
    decodeFile? (encodeUtf8 text) = some text := by
  have whole : wellFormed? (decodeUtf8 (encodeUtf8 text)) = some text := by
    rw [decodeUtf8_encodeUtf8, wellFormed?_map_some]
  cases shape : encodeUtf8 text using decodeFile?.fun_cases with
  | case1 first second third bytes =>
      have noMarks :
          ¬(first = 0xFF ∧ second = 0xFE) ∧ ¬(first = 0xFE ∧ second = 0xFF) ∧
            ¬(first = 0xEF ∧ second = 0xBB ∧ third = 0xBF) := by
        refine ⟨?_, ?_, ?_⟩
        · rintro ⟨rfl, -⟩
          exact encodeUtf8_ne_cons (by decide) (by decide) text _ shape
        · rintro ⟨rfl, -⟩
          exact encodeUtf8_ne_cons (by decide) (by decide) text _ shape
        · rintro ⟨rfl, rfl, rfl⟩
          exact noMark (head?_of_encodeUtf8_eq shape)
      rw [decodeFile?, decodeMarked, if_neg noMarks.1, if_neg noMarks.2.1, if_neg noMarks.2.2,
        ← shape, whole]
  | case2 bytes short =>
      rw [decodeFile?, ← shape, whole]
      exact short

/-- A file is the text that it holds. -/
theorem decodeFile?_bytes
    (encoding : Encoding)
    {text : List Char}
    (notEmpty : text ≠ [])
    (noMark : text.head? ≠ some '\uFEFF') :
    decodeFile? (encoding.bytes text) = some text := by
  obtain ⟨character, rest, rfl⟩ := List.exists_cons_of_ne_nil notEmpty
  cases encoding with
  | utf8 =>
      exact decodeFile?_encodeUtf8 noMark
  | markedUtf8 =>
      change decodeMarked 0xEF 0xBB 0xBF (encodeUtf8 (character :: rest)) = _
      rw [decodeMarked, if_neg (by decide), if_neg (by decide), if_pos (by decide),
        decodeUtf8_encodeUtf8, withReplacements_map_some]
  | utf16 order =>
      obtain ⟨third, bytes, shape⟩ :=
        List.exists_cons_of_ne_nil (encodeUtf16_ne_nil order (List.cons_ne_nil character rest))
      have units := codeUnits_encodeUtf16 order (character :: rest)
      rw [shape] at units
      cases order with
      | littleEndian =>
          change decodeFile? (0xFF :: 0xFE :: encodeUtf16 _ _) = _
          rw [shape, decodeFile?, decodeMarked, if_pos (by decide), units]
          simp only [decodeUtf16_flatMap_utf16Units, withReplacements_map_some]
      | bigEndian =>
          change decodeFile? (0xFE :: 0xFF :: encodeUtf16 _ _) = _
          rw [shape, decodeFile?, decodeMarked, if_neg (by decide), if_pos (by decide), units]
          simp only [decodeUtf16_flatMap_utf16Units, withReplacements_map_some]

end Phrasebook.Text
