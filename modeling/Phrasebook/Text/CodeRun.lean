namespace Phrasebook.Text

/-!
# Runs of code points

Unicode properties hold of long runs of neighbouring code points, or of every second one where
capital and small letters alternate. A run says both with a first and a last member and a stride.
-/

/-- The code points from `first` to `last`, in steps of `stride`. -/
structure CodeRun where
  first : Nat
  last : Nat
  stride : Nat
  deriving Repr, DecidableEq

namespace CodeRun

/-- Whether a code point is a member of a run. -/
def contains
    (run : CodeRun)
    (code : Nat) :
    Bool :=
  run.first ≤ code && code ≤ run.last && (code - run.first) % run.stride == 0

end CodeRun

/-- Whether the code point of a character is a member of one of the runs. -/
def inRuns
    (runs : List CodeRun)
    (character : Char) :
    Bool :=
  runs.any (·.contains character.toNat)

end Phrasebook.Text
