import Phrasebook.Identifier
import Phrasebook.Placeholder.Basic
import Phrasebook.Text.Decimal

namespace Phrasebook.Placeholder

/-!
# Placeholders in text

An opening brace, text without braces and a closing brace may be a placeholder. It is one if the
parts of the text between colons are an index, an index and a name, an index, a name and a type,
or a name. Everything else is text, braces included. The one thing that is refused is an index and
a name with a type that does not exist.
-/

/-- A type that does not exist, and the text between the braces around it. -/
structure UnknownType where
  type : List Char
  content : List Char
  deriving Repr, DecidableEq

namespace UnknownType

/-- The message for an unknown type. -/
def message
    (unknown : UnknownType) :
    String :=
  "unknown argument type `" ++ String.ofList unknown.type ++ "` in \x7b" ++
    String.ofList unknown.content ++ "\x7d"

end UnknownType

/-- The largest index that can be written. -/
def largestIndex :
    Nat :=
  18446744073709551615

/-- The reference that the parts between the colons of a text make, if they make one. -/
def referenceOfParts
    (content : List Char) :
    List (List Char) →
    Except UnknownType (Option Reference)
  | [] => .ok none
  | first :: further =>
      if Text.isNumber first then
        if Text.decimalValue first ≤ largestIndex then
          match further with
          | [] => .ok (some ⟨some (Text.decimalValue first), none, none⟩)
          | name :: more =>
              if Identifier.isName name then
                match more with
                | [] =>
                    .ok (some ⟨some (Text.decimalValue first), some (String.ofList name), none⟩)
                | type :: rest =>
                    match ArgumentType.ofWritten? type with
                    | none => .error ⟨type, content⟩
                    | some known =>
                        if rest.isEmpty then
                          .ok (some ⟨some (Text.decimalValue first), some (String.ofList name),
                            some known⟩)
                        else
                          .ok none
              else
                .ok none
        else
          .ok none
      else if further.isEmpty && Identifier.isName first then
        .ok (some ⟨none, some (String.ofList first), none⟩)
      else
        .ok none

/-- The reference that the text between two braces makes, if it makes one. -/
def referenceOf
    (content : List Char) :
    Except UnknownType (Option Reference) :=
  referenceOfParts content (content.splitOnP (· == ':'))

/-- The text up to the next brace and the text after it, if that brace closes. -/
def candidate? :
    List Char →
    Option (List Char × List Char)
  | [] => none
  | character :: text =>
      if character = '}' then
        some ([], text)
      else if character = '{' then
        none
      else
        (candidate? text).map fun (content, rest) => (character :: content, rest)

/-- What follows a candidate is shorter than the text it was found in. -/
theorem length_candidate?_lt
    {text content rest : List Char}
    (found : candidate? text = some (content, rest)) :
    rest.length < text.length := by
  induction text generalizing content with
  | nil =>
      simp [candidate?] at found
  | cons character text inductionHypothesis =>
      simp only [candidate?] at found
      split at found
      · simp only [Option.some.injEq, Prod.mk.injEq] at found
        simp [found.2]
      · split at found
        · simp at found
        · simp only [Option.map_eq_some_iff, Prod.mk.injEq] at found
          obtain ⟨⟨inner, remaining⟩, innerFound, _, rfl⟩ := found
          exact Nat.lt_succ_of_lt (inductionHypothesis innerFound)

/-- A character of a message, or one of its placeholders. -/
inductive Fragment where
  | character (character : Char)
  | argument (reference : Reference)
  deriving Repr, DecidableEq

/-- The characters and placeholders of a message in order. -/
def fragments :
    List Char →
    Except UnknownType (List Fragment)
  | [] => .ok []
  | character :: text =>
      if character = '{' then
        match _found : candidate? text with
        | none => (fragments text).map (.character '{' :: ·)
        | some (content, rest) =>
            match referenceOf content with
            | .error unknown => .error unknown
            | .ok (some reference) => (fragments rest).map (.argument reference :: ·)
            | .ok none => (fragments text).map (.character '{' :: ·)
      else
        (fragments text).map (.character character :: ·)
  termination_by text => text.length
  decreasing_by
    · simp
    · have shorter := length_candidate?_lt _found
      simp only [List.length_cons]
      omega
    · simp
    · simp

/-- A text token, unless it would be empty. -/
def textToken
    (text : List Char) :
    List Token :=
  if text.isEmpty then
    []
  else
    [.text (String.ofList text)]

/-- Tokens of fragments, where each longest run of characters, the first of which `pending` has
begun, makes one text token. -/
def grouped
    (pending : List Char) :
    List Fragment →
    List Token
  | [] => textToken pending.reverse
  | .character character :: rest => grouped (character :: pending) rest
  | .argument reference :: rest =>
      textToken pending.reverse ++ .argument reference :: grouped [] rest

/-- The text and the placeholders of a message, in order. -/
def scan
    (message : String) :
    Except UnknownType (List Token) :=
  (fragments message.toList).map (grouped [])

end Phrasebook.Placeholder
