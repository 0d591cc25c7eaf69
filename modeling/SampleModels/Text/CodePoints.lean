/-!
# Tables of code points

A property of characters is a list of ranges, or of runs that step over every other code point. A
mapping is a list of runs, each sent to the run of the same length and step that begins at the
image of its first element.
-/

namespace SampleModels.Text

/-- Whether a character lies in one of the ranges, both ends included. -/
def inRanges (ranges : List (Nat × Nat)) (c : Char) : Bool :=
  ranges.any fun (first, last) => first ≤ c.toNat && c.toNat ≤ last

/-- Whether `n` is one of `first, first + step, …, last`. -/
def inRun (first last step n : Nat) : Bool :=
  first ≤ n && n ≤ last && (n - first) % step == 0

def inRuns (runs : List (Nat × Nat × Nat)) (c : Char) : Bool :=
  runs.any fun (first, last, step) => inRun first last step c.toNat

/-- The image of a character under a mapping; a character outside of all runs is its own. -/
def image (runs : List (Nat × Nat × Nat × Nat)) (c : Char) : Char :=
  match runs.find? fun (first, last, step, _) => inRun first last step c.toNat with
  | some (first, _, _, target) => Char.ofNat (target + (c.toNat - first))
  | none => c

end SampleModels.Text
