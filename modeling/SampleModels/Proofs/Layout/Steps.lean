import SampleModels.LineBuffer.Script
import SampleModels.Proofs.Layout.Lines

/-!
# Steps of a line buffer

A step looks at nothing of a buffer but its level. That tells whether the step breaks a rule, which
lines it adds at the end and to which level it goes, and so does it for any number of steps.
-/

namespace SampleModels

namespace LineBuffer

namespace Step

/-- The rule that the step breaks at the level. -/
def breach? (level : Nat) : Step → Option Breach
  | .line text => if breaksLine text then some (.lineBreak text) else none
  | .blank => none
  | .indent => if level + 1 < wordSize then none else some .levelOverflow
  | .dedent => if level = 0 then some .unopenedBlock else none
  | .openBlock header =>
    if breaksLine header then some (.lineBreak header)
    else if level + 1 < wordSize then none else some .levelOverflow
  | .closeBlock footer =>
    if level = 0 then some .unopenedBlock
    else if breaksLine footer then some (.lineBreak footer) else none
  | .absorb _ => none

/-- The lines that the step writes at the level. -/
def linesAt (level : Nat) : Step → List Line
  | .line text => [⟨level, text⟩]
  | .blank => [.blank]
  | .indent => []
  | .dedent => []
  | .openBlock header => [⟨level, header⟩]
  | .closeBlock footer => [⟨level - 1, footer⟩]
  | .absorb other => other.lines.toList

/-- Whether the lines after the step are a level deeper. -/
def opens : Step → Bool
  | .indent | .openBlock _ => true
  | _ => false

/-- Whether the lines after the step are a level less deep. -/
def closes : Step → Bool
  | .dedent | .closeBlock _ => true
  | _ => false

def levelAfter (level : Nat) (s : Step) : Nat :=
  if s.opens then level + 1 else if s.closes then level - 1 else level

theorem pos_of_closes {level : Nat} {s : Step} (h : s.breach? level = none) (hc : s.closes) :
    0 < level := by
  refine Nat.pos_of_ne_zero ?_
  rintro rfl
  cases s <;> cases hc <;> cases h

theorem lt_of_opens {level : Nat} {s : Step} (h : s.breach? level = none) (ho : s.opens) :
    level + 1 < wordSize := by
  refine Decidable.byContradiction fun hlevel => ?_
  cases s <;> cases ho
  · simp [breach?, hlevel] at h
  · next header => by_cases ht : breaksLine header <;> simp [breach?, ht, hlevel] at h

theorem closes_of_opens {s : Step} (h : s.opens) : s.closes = false := by
  cases s <;> cases h <;> rfl

theorem opens_of_closes {s : Step} (h : s.closes) : s.opens = false := by
  cases s <;> cases h <;> rfl

theorem levelAfter_add {level : Nat} {s : Step} (h : s.breach? level = none) :
    s.levelAfter level + (if s.closes then 1 else 0) = level + if s.opens then 1 else 0 := by
  unfold levelAfter
  by_cases ho : s.opens
  · simp [ho, closes_of_opens ho]
  · by_cases hc : s.closes
    · have hpos := pos_of_closes h hc
      simp [ho, hc, Nat.sub_add_cancel hpos]
    · simp [ho, hc]

end Step

/-- The buffer with the lines of the step and its level. -/
def after (b : LineBuffer) (s : Step) : LineBuffer :=
  ⟨b.lines ++ (s.linesAt b.level).toArray, s.levelAfter b.level, b.width⟩

theorem apply_eq (b : LineBuffer) (s : Step) :
    b.apply s = (s.breach? b.level).elim (.ok (b.after s)) .error := by
  unfold after Step.levelAfter
  cases s with
  | line text =>
    by_cases h : breaksLine text <;>
      simp [apply, line, Step.breach?, Step.linesAt, Step.opens, Step.closes, h]
  | blank => simp [apply, blank, Step.breach?, Step.linesAt, Step.opens, Step.closes, Line.blank]
  | indent =>
    by_cases h : b.level + 1 < wordSize <;>
      simp [apply, indent, Step.breach?, Step.linesAt, Step.opens, h]
  | dedent =>
    by_cases h : b.level = 0 <;>
      simp [apply, dedent, Step.breach?, Step.linesAt, Step.opens, Step.closes, h]
  | openBlock header =>
    by_cases ht : breaksLine header <;> by_cases h : b.level + 1 < wordSize <;>
      simp [apply, openBlock, line, indent, bind, Except.bind, Step.breach?, Step.linesAt,
        Step.opens, ht, h]
  | closeBlock footer =>
    by_cases h : b.level = 0 <;> by_cases ht : breaksLine footer <;>
      simp [apply, closeBlock, line, dedent, bind, Except.bind, Step.breach?, Step.linesAt,
        Step.opens, Step.closes, ht, h]
  | absorb other => simp [apply, absorb, Step.breach?, Step.linesAt, Step.opens, Step.closes]

theorem apply_eq_ok_iff {b c : LineBuffer} {s : Step} :
    b.apply s = .ok c ↔ s.breach? b.level = none ∧ c = b.after s := by
  rw [apply_eq]
  cases s.breach? b.level <;> simp [eq_comm]

theorem apply_eq_error_iff {b : LineBuffer} {s : Step} {breach : Breach} :
    b.apply s = .error breach ↔ s.breach? b.level = some breach := by
  rw [apply_eq]
  cases s.breach? b.level <;> simp

theorem applyAll_cons (b : LineBuffer) (s : Step) (steps : List Step) :
    b.applyAll (s :: steps) = b.apply s >>= (·.applyAll steps) := List.foldlM_cons

theorem applyAll_cons_eq_ok_iff {b c : LineBuffer} {s : Step} {steps : List Step} :
    b.applyAll (s :: steps) = .ok c ↔
      s.breach? b.level = none ∧ (b.after s).applyAll steps = .ok c := by
  rw [applyAll_cons, apply_eq]
  cases s.breach? b.level <;> simp [bind, Except.bind]

theorem applyAll_append (b : LineBuffer) (steps more : List Step) :
    b.applyAll (steps ++ more) = b.applyAll steps >>= (·.applyAll more) := List.foldlM_append

/-- The level goes up by the blocks that are opened and down by those that are closed. -/
theorem level_of_applyAll {b c : LineBuffer} {steps : List Step} (h : b.applyAll steps = .ok c) :
    c.level + steps.countP Step.closes = b.level + steps.countP Step.opens := by
  induction steps generalizing b with
  | nil =>
    cases h
    rfl
  | cons s steps ih =>
    obtain ⟨hs, hrest⟩ := applyAll_cons_eq_ok_iff.mp h
    have hafter : (b.after s).level = s.levelAfter b.level := rfl
    have hstep := Step.levelAfter_add hs
    have hlevel := ih hrest
    rw [List.countP_cons, List.countP_cons]
    omega

end LineBuffer

end SampleModels
