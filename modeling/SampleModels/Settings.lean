/-!
# Settings
-/

namespace SampleModels

/-- The spaces of one indentation level when nothing else is asked for. -/
def defaultIndentWidth : Nat := 4

/-- Widths, levels and their products are less than this. -/
def wordSize : Nat := Nat.pow 2 64

/-- What can be chosen for a run. -/
structure Settings where
  /-- Whether a non-empty array is typed by its first element instead of being kept as it is. -/
  inspectArrays : Bool := false
  /-- The spaces of one indentation level. -/
  indentWidth : Nat := defaultIndentWidth
deriving DecidableEq

end SampleModels
