import Phrasebook.Document.Yaml.Cursor

namespace Phrasebook.Document.Yaml

/-!
# Gaps between words

A scalar may run over several lines. A single end of a line then stands for a space, and of several
the first is left out; blanks beside the end of a line do not count.
-/

/-- The blanks before the first end of a line, all ends of lines, and the place after them. -/
structure Gap where
  blanks : List Char
  breaks : List Char
  cursor : Cursor

namespace Gap

/-- Reads a gap. Once a line has ended, blanks are left out, and a tab must not stand to the left
of a column. The fuel bounds the number of characters. -/
def read
    (leastColumn : Nat) :
    (fuel : Nat) →
    (ended : Bool) →
    Cursor →
    Option Gap
  | 0, _, _ => none
  | fuel + 1, ended, cursor =>
      match cursor.rest with
      | [] => some ⟨[], [], cursor⟩
      | character :: _ =>
          if isBreak character then
            (read leastColumn fuel true cursor.next).map fun gap =>
              { gap with breaks := character :: gap.breaks }
          else if !isBlank character then
            some ⟨[], [], cursor⟩
          else if !ended then
            (read leastColumn fuel false cursor.next).map fun gap =>
              { gap with blanks := character :: gap.blanks }
          else if character = '\t' && cursor.column < leastColumn then
            none
          else
            read leastColumn fuel true cursor.next

/-- What a gap stands for. -/
def folded
    (gap : Gap) :
    List Char :=
  match gap.breaks with
  | [] => gap.blanks
  | ['\n'] => [' ']
  | '\n' :: breaks => breaks
  | breaks => breaks

end Gap

end Phrasebook.Document.Yaml
