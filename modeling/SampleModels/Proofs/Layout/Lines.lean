import SampleModels.LineBuffer.Basic
import SampleModels.Proofs.Failure

/-!
# Lines written in turn

Writing to a buffer comes to handing it lines, which it takes up to the first that holds a line
break, and moving its level. `Writes` says which lines these are for buffers at one level; rendering
is then decided line by line.
-/

namespace SampleModels

namespace Line

def blank : Line := ⟨0, ""⟩

/-- The text of the line holds no line break. -/
def Unbroken (l : Line) : Prop := LineBuffer.breaksLine l.text = false

instance (l : Line) : Decidable l.Unbroken := inferInstanceAs (Decidable (_ = false))

/-- The spaces before the line are not too many. -/
def Fits (width : Nat) (l : Line) : Prop := l.text = "" ∨ l.level * width ≤ maxIndent

/-- The line as text, without the line break at its end. -/
def row (width : Nat) (l : Line) : List Char :=
  if l.text = "" then [] else List.replicate (l.level * width) ' ' ++ l.text.toList

theorem render_of_fits {width : Nat} {l : Line} (h : l.Fits width) :
    l.render width = .ok (String.ofList (l.row width ++ ['\n'])) := by
  have hm : maxIndent < wordSize := by decide
  unfold Line.render row
  by_cases ht : l.text = ""
  · simp [ht]
  · have hle := h.resolve_left ht
    have hlt : ¬ l.level * width ≥ wordSize := by omega
    simp only [ht, if_false, if_neg hlt, if_neg (Nat.not_lt.mpr hle)]
    exact congrArg Except.ok (String.ext (by simp))

theorem render_of_not_fits {width : Nat} {l : Line} (h : ¬ l.Fits width) :
    l.render width =
      .error (if l.level * width ≥ wordSize then .widthOverflow else .tooWide) := by
  obtain ⟨ht, hle⟩ := not_or.mp h
  unfold Line.render
  simp only [ht, if_false, if_pos (Nat.lt_of_not_le hle)]
  split <;> rfl

theorem render_eq_ok_iff (width : Nat) (l : Line) (text : String) :
    l.render width = .ok text ↔ l.Fits width ∧ text = String.ofList (l.row width ++ ['\n']) := by
  by_cases h : l.Fits width
  · simp [render_of_fits h, h, eq_comm]
  · simp [render_of_not_fits h, h]

end Line

namespace LineBuffer

/-- Takes lines up to the first that holds a line break, and goes to `level`. -/
def extend (b : LineBuffer) (lines : List Line) (level : Nat) : Except Breach LineBuffer :=
  match lines.find? fun l => breaksLine l.text with
  | some l => .error (.lineBreak l.text)
  | none => .ok ⟨b.lines ++ lines.toArray, level, b.width⟩

theorem extend_nil (b : LineBuffer) : b.extend [] b.level = .ok b := by simp [extend]

/-- Lines handed over one after the other can be handed over all at once. -/
theorem extend_append (b : LineBuffer) (lines more : List Line) (level after : Nat) :
    (b.extend lines level >>= fun b => b.extend more after) = b.extend (lines ++ more) after := by
  unfold extend
  rw [List.find?_append]
  cases lines.find? fun l => breaksLine l.text with
  | some l => rfl
  | none => cases more.find? fun l => breaksLine l.text <;> simp [bind, Except.bind]

theorem extend_eq_ok_iff {b c : LineBuffer} {lines : List Line} {level : Nat} :
    b.extend lines level = .ok c ↔
      (∀ l ∈ lines, l.Unbroken) ∧ c = ⟨b.lines ++ lines.toArray, level, b.width⟩ := by
  unfold extend
  cases h : lines.find? fun l => breaksLine l.text with
  | some l =>
    have hl := List.find?_some h
    have hm := List.mem_of_find?_eq_some h
    simp only [reduceCtorEq, false_iff, not_and]
    intro hu
    exact absurd (hu l hm) (by simpa [Line.Unbroken] using hl)
  | none =>
    rw [List.find?_eq_none] at h
    simp only [Except.ok.injEq, eq_comm (a := c)]
    refine ⟨fun hc => ⟨fun l hl => by simpa [Line.Unbroken] using h l hl, hc⟩, And.right⟩

/-- On buffers at level `before`, `f` writes the lines and goes to level `after`. -/
def Writes (f : LineBuffer → Except Breach LineBuffer) (before : Nat) (lines : List Line)
    (after : Nat) : Prop :=
  ∀ b : LineBuffer, b.level = before → f b = b.extend lines after

namespace Writes

variable {f g : LineBuffer → Except Breach LineBuffer} {k l m : Nat} {lines more : List Line}

theorem bind (hf : Writes f k lines l) (hg : Writes g l more m) :
    Writes (fun b => f b >>= g) k (lines ++ more) m := by
  intro b hb
  show (f b >>= g) = _
  rw [hf b hb, ← extend_append b lines more l m]
  cases h : b.extend lines l with
  | error breach => rfl
  | ok c => exact hg c (by rw [(extend_eq_ok_iff.mp h).2])

theorem line (text : String) : Writes (·.line text) k [⟨k, text⟩] k := by
  rintro b rfl
  unfold LineBuffer.line extend
  cases h : breaksLine text <;> simp [h]

theorem indent (hk : k + 1 < wordSize) : Writes LineBuffer.indent k [] (k + 1) := by
  rintro b rfl
  simp [LineBuffer.indent, extend, hk]

theorem dedent : Writes LineBuffer.dedent (k + 1) [] k := by
  intro b hb
  simp [LineBuffer.dedent, extend, hb]

theorem openBlock (hk : k + 1 < wordSize) (header : String) :
    Writes (·.openBlock header) k [⟨k, header⟩] (k + 1) :=
  (line header).bind (indent hk)

theorem closeBlock (footer : String) : Writes (·.closeBlock footer) (k + 1) [⟨k, footer⟩] k :=
  dedent.bind (line footer)

/-- Writing one thing after another at one level writes the lines of each in turn. -/
theorem foldlM {α : Type} {write : LineBuffer → α → Except Breach LineBuffer}
    {linesOf : α → List Line} (h : ∀ a, Writes (write · a) k (linesOf a) k) (as : List α) :
    Writes (as.foldlM write ·) k (as.flatMap linesOf) k := by
  induction as with
  | nil =>
    rintro b rfl
    exact b.extend_nil.symm
  | cons a as ih => simpa only [List.foldlM_cons, List.flatMap_cons] using (h a).bind ih

theorem extend (lines : List Line) : Writes (·.extend lines l) k lines l := fun _ _ => rfl

/-- A block absorbed from a buffer of its own is written in place. -/
theorem absorb {other : LineBuffer} {level : Nat} (h : other.lines = #[])
    (hg : Writes g k more m) :
    Writes (fun b => other.extend lines level >>= fun block => g (b.absorb block)) k
      (lines ++ more) m := by
  intro b hb
  rw [← (Writes.extend lines).bind hg b hb]
  show other.extend lines level >>= _ = b.extend lines k >>= g
  unfold LineBuffer.extend
  cases lines.find? fun l => breaksLine l.text with
  | some l => rfl
  | none => simp [Bind.bind, Except.bind, LineBuffer.absorb, h, hb]

end Writes

theorem extend_blank (b : LineBuffer) (lines : List Line) (level : Nat) :
    b.blank.extend lines level = b.extend (.blank :: lines) level := by
  have hb : breaksLine "" = false := rfl
  simp only [extend, List.find?_cons, Line.blank, hb]
  cases lines.find? fun l => breaksLine l.text with
  | some l => rfl
  | none => simp [blank]

/-- A buffer renders when each of its lines fits, to these lines in turn. -/
theorem render_eq_ok_iff {b : LineBuffer} {text : String} :
    b.render = .ok text ↔ (∀ l ∈ b.lines.toList, l.Fits b.width) ∧
      text.toList = b.lines.toList.flatMap fun l => l.row b.width ++ ['\n'] := by
  have hlines {rows} : b.lines.toList.mapM (Line.render b.width) = .ok rows ↔ _ :=
    mapM_eq_ok_iff (Line.render_eq_ok_iff b.width)
  unfold render
  cases hm : b.lines.toList.mapM (Line.render b.width) with
  | error breach =>
    constructor
    · intro h
      cases h
    · rintro ⟨hf, -⟩
      rw [hlines.mpr ⟨hf, rfl⟩] at hm
      cases hm
  | ok rows =>
    obtain ⟨hf, rfl⟩ := hlines.mp hm
    show Except.ok (String.join _) = Except.ok text ↔ _
    rw [and_iff_right hf, Except.ok.injEq, ← String.toList_inj, String.toList_join,
      List.flatMap_map, eq_comm]
    simp only [String.toList_ofList]

/-- Where a buffer does not render, its first line that does not fit tells why. -/
theorem exists_of_render_eq_error {b : LineBuffer} {breach : Breach}
    (h : b.render = .error breach) :
    ∃ before l after, b.lines.toList = before ++ l :: after ∧ (∀ k ∈ before, k.Fits b.width) ∧
      ¬ l.Fits b.width ∧
      breach = if l.level * b.width ≥ wordSize then .widthOverflow else .tooWide := by
  unfold render at h
  cases hm : b.lines.toList.mapM (Line.render b.width) with
  | ok rows =>
    rw [hm] at h
    cases h
  | error e =>
    rw [hm] at h
    cases h
    obtain ⟨before, l, after, hl, hb, he⟩ := exists_of_mapM_eq_error hm
    have hf : ¬ l.Fits b.width := by
      intro hf
      rw [Line.render_of_fits hf] at he
      cases he
    refine ⟨before, l, after, hl, fun k hk => ?_, hf, ?_⟩
    · obtain ⟨row, hrow⟩ := hb k hk
      refine Classical.byContradiction fun hk => ?_
      rw [Line.render_of_not_fits hk] at hrow
      cases hrow
    · rw [Line.render_of_not_fits hf] at he
      exact (Except.error.inj he).symm

end LineBuffer

end SampleModels
