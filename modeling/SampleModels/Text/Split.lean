/-!
# Pieces and blanks

The pieces of a text that is cut at its separators, and the blanks at its ends.
-/

namespace SampleModels.Text

/-- The White_Space property. -/
def isBlank (c : Char) : Bool :=
  let n := c.toNat
  (0x09 ≤ n && n ≤ 0x0D) || n == 0x20 || n == 0x85 || n == 0xA0 || n == 0x1680 ||
    (0x2000 ≤ n && n ≤ 0x200A) || n == 0x2028 || n == 0x2029 || n == 0x202F || n == 0x205F ||
    n == 0x3000

/-- The characters without the blanks at either end. -/
def trimBlanks (cs : List Char) : List Char :=
  ((cs.dropWhile isBlank).reverse.dropWhile isBlank).reverse

/-- Nothing but the separators is lost. -/
theorem flatten_splitOnP (separator : Char → Bool) (cs : List Char) :
    (cs.splitOnP separator).flatten = cs.filter (fun c => !separator c) := by
  induction cs with
  | nil => rfl
  | cons c rest ih =>
    rw [List.splitOnP_cons_eq_if_modifyHead]
    by_cases h : separator c
    · simp [h, ih]
    · obtain ⟨piece, pieces, hs⟩ :=
        List.exists_cons_of_ne_nil (List.splitOnP_ne_nil separator rest)
      simp [h, ← ih, hs]

theorem of_mem_splitOnP {separator : Char → Bool} {cs piece : List Char} {c : Char}
    (hp : piece ∈ cs.splitOnP separator) (hc : c ∈ piece) : c ∈ cs ∧ separator c = false := by
  have hflat : c ∈ (cs.splitOnP separator).flatten := List.mem_flatten_of_mem hp hc
  simpa [flatten_splitOnP] using hflat

end SampleModels.Text
