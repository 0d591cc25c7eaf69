import SampleModels.Proofs.Decoding.Rows
import SampleModels.Proofs.Layout.Steps

/-!
# Buffers made by scripts

Whatever a script does to its buffers, no line in any of them comes to hold a line break, also where
buffers are copied or a buffer absorbs itself. So a text has one line break for each line of its
buffer. What a buffer absorbs is rendered after what it held before, at its own width.
-/

namespace SampleModels

namespace LineBuffer

/-- No line of the buffer holds a line break. -/
def Unbroken (b : LineBuffer) : Prop := ∀ l ∈ b.lines.toList, l.Unbroken

/-- The buffer with another number of spaces to a level. -/
def withWidth (b : LineBuffer) (width : Nat) : LineBuffer := { b with width }

theorem unbroken_absorb {b other : LineBuffer} (hb : b.Unbroken) (ho : other.Unbroken) :
    (b.absorb other).Unbroken := by
  unfold Unbroken
  rw [toList_lines_absorb, List.forall_mem_append]
  exact ⟨hb, ho⟩

/-- A step that breaks no rule writes no line break. -/
theorem Step.unbroken_linesAt {level : Nat} {s : Step} (h : s.breach? level = none)
    (hs : ∀ other, s = .absorb other → other.Unbroken) : ∀ l ∈ s.linesAt level, l.Unbroken := by
  cases s with
  | line text => simpa [linesAt, breach?, Line.Unbroken] using h
  | blank => simp [linesAt, Line.Unbroken, Line.blank, breaksLine]
  | indent => simp [linesAt]
  | dedent => simp [linesAt]
  | openBlock header =>
    by_cases ht : breaksLine header
    · simp [breach?, ht] at h
    · simpa [linesAt, Line.Unbroken] using ht
  | closeBlock footer =>
    by_cases ht : breaksLine footer
    · by_cases hl : level = 0 <;> simp [breach?, ht, hl] at h
    · simpa [linesAt, Line.Unbroken] using ht
  | absorb other => exact hs other rfl

theorem unbroken_of_apply {b c : LineBuffer} {s : Step} (hb : b.Unbroken)
    (hs : ∀ other, s = .absorb other → other.Unbroken) (h : b.apply s = .ok c) : c.Unbroken := by
  obtain ⟨hbreach, rfl⟩ := apply_eq_ok_iff.mp h
  simp only [Unbroken, after, Array.toList_append, List.forall_mem_append]
  exact ⟨hb, Step.unbroken_linesAt hbreach hs⟩

/-- Rows with a line break after each hold no others. -/
theorem count_rows {lines : List Line} (h : ∀ l ∈ lines, l.Unbroken) (width : Nat) :
    (lines.flatMap fun l => l.row width ++ ['\n']).count '\n' = lines.length := by
  induction lines with
  | nil => rfl
  | cons l lines ih =>
    rw [List.forall_mem_cons] at h
    have hrow : (l.row width).count '\n' = 0 := List.count_eq_zero.mpr h.1.newline_notMem_row
    rw [List.flatMap_cons, List.count_append, ih h.2, List.count_append, hrow]
    simp [Nat.add_comm]

/-- The text of a buffer without line breaks in its lines has one after each line. -/
theorem Unbroken.text {b : LineBuffer} {text : String} (hb : b.Unbroken)
    (h : b.render = .ok text) :
    text.toList.count '\n' = b.size ∧ (text = "" ∨ text.toList.getLast? = some '\n') ∧
      '\r' ∉ text.toList := by
  obtain ⟨-, htext⟩ := render_eq_ok_iff.mp h
  refine ⟨?_, ?_, ?_⟩
  · rw [htext, count_rows hb, Array.length_toList, size]
  · by_cases hlines : b.lines.toList = []
    · rw [hlines] at htext
      exact .inl (String.toList_eq_nil_iff.mp htext)
    · rw [htext]
      exact .inr (Line.getLast?_flatMap_row hlines b.width)
  · rw [htext, List.mem_flatMap]
    rintro ⟨l, hl, hm⟩
    rcases List.mem_append.mp hm with hm | hm
    · exact Line.notMem_row (by decide) (l.unbroken_iff.mp (hb l hl)).2 b.width hm
    · cases List.mem_singleton.mp hm

/-- What is absorbed is rendered after what was there, at the width of the buffer it went to. -/
theorem render_absorb (b other : LineBuffer) :
    (b.absorb other).render =
      b.render >>= fun above => (other.withWidth b.width).render.map (above ++ ·) := by
  have hwidth : (b.absorb other).width = b.width := rfl
  unfold render withWidth
  rw [toList_lines_absorb, List.mapM_append, hwidth]
  cases b.lines.toList.mapM (Line.render b.width) with
  | error breach => rfl
  | ok above =>
    cases other.lines.toList.mapM (Line.render b.width) with
    | error breach => rfl
    | ok below =>
      show Except.ok (String.join (above ++ below)) = .ok (String.join above ++ String.join below)
      exact congrArg Except.ok (String.toList_inj.mp (by simp))

end LineBuffer

namespace Workbench

/-- The instruction brings no buffer from outside of the workbench. -/
def Instruction.isClosed : Instruction → Bool
  | .step _ (.absorb _) => false
  | _ => true

def Unbroken (w : Workbench) : Prop := ∀ name, (w.get name).Unbroken

theorem unbroken_empty : empty.Unbroken := by
  intro name l hl
  cases hl

theorem unbroken_of_buffer {w : Workbench} {i : Instruction} {b : LineBuffer} (hw : w.Unbroken)
    (hi : i.isClosed) (h : w.buffer i = .ok b) : b.Unbroken := by
  cases i with
  | ofWidth name width =>
    cases h
    exact fun l hl => nomatch hl
  | atLevel name level =>
    cases h
    exact fun l hl => nomatch hl
  | copy name source =>
    cases h
    exact hw source
  | absorb name source =>
    cases h
    exact LineBuffer.unbroken_absorb (hw name) (hw source)
  | step name s =>
    refine LineBuffer.unbroken_of_apply (hw name) ?_ h
    rintro other rfl
    cases hi
  | render name =>
    obtain ⟨text, -, hsame⟩ := bind_eq_ok_iff.mp h
    cases hsame
    exact hw name

theorem follow_eq_ok_iff {w after : Workbench} {i : Instruction} :
    w.follow i = .ok after ↔ ∃ b, w.buffer i = .ok b ∧ after = w.set i.name b := by
  unfold follow
  cases w.buffer i <;> simp [bind, Except.bind, pure, Except.pure, eq_comm]

theorem unbroken_of_follow {w after : Workbench} {i : Instruction} (hw : w.Unbroken)
    (hi : i.isClosed) (h : w.follow i = .ok after) : after.Unbroken := by
  obtain ⟨b, hb, rfl⟩ := follow_eq_ok_iff.mp h
  intro name
  by_cases hname : name = i.name
  · rw [hname, get_set_self]
    exact unbroken_of_buffer hw hi hb
  · rw [get_set_of_ne w b hname]
    exact hw name

theorem run_cons (w : Workbench) (i : Instruction) (script : List Instruction) :
    w.run (i :: script) = w.follow i >>= (·.run script) := List.foldlM_cons

theorem unbroken_of_run {w after : Workbench} {script : List Instruction} (hw : w.Unbroken)
    (hscript : ∀ i ∈ script, i.isClosed) (h : w.run script = .ok after) : after.Unbroken := by
  induction script generalizing w with
  | nil =>
    cases h
    exact hw
  | cons i script ih =>
    rw [List.forall_mem_cons] at hscript
    rw [run_cons] at h
    obtain ⟨next, hf, h⟩ := bind_eq_ok_iff.mp h
    exact ih (unbroken_of_follow hw hscript.1 hf) hscript.2 h

/-- A script runs to its end if none of its answers is a breach. -/
theorem exists_run_iff_trace {w : Workbench} {script : List Instruction} :
    (∃ after, w.run script = .ok after) ↔ ∀ answer ∈ w.trace script, answer.isOk := by
  induction script generalizing w with
  | nil => exact ⟨fun _ _ h => (nomatch h), fun _ => ⟨w, rfl⟩⟩
  | cons i script ih =>
    rw [run_cons, trace]
    cases w.follow i with
    | error breach => simp [bind, Except.bind, Except.isOk, Except.toBool]
    | ok next =>
      rw [List.forall_mem_cons, ← ih]
      simp [bind, Except.bind, Except.isOk, Except.toBool]

/-- After a script without a breach, no line of any buffer holds a line break, so a text that a
buffer renders to has as many line breaks as the buffer has lines, the last one at its end. Where
a buffer absorbs another or itself, the lines of that are rendered after its own at its own width,
and for a breach in either there is no text. Its level and width stay, as do all other buffers. -/
theorem script_buffers_render_in_turn {script : List Instruction}
    (hclosed : ∀ i ∈ script, i.isClosed) (htrace : ∀ answer ∈ empty.trace script, answer.isOk)
    (a b : String) :
    ∃ w, empty.run script = .ok w ∧
      (∀ l ∈ (w.get a).lines.toList, '\n' ∉ l.text.toList ∧ '\r' ∉ l.text.toList) ∧
      (∀ text, (w.get a).render = .ok text →
        text.toList.count '\n' = (w.get a).size ∧
          (text = "" ∨ text.toList.getLast? = some '\n') ∧ '\r' ∉ text.toList) ∧
      ∃ after, w.follow (.absorb a b) = .ok after ∧
        ((after.get a).render = (w.get a).render >>= fun above =>
          ((w.get b).withWidth (w.get a).width).render.map (above ++ ·)) ∧
        ((∃ breach, (after.get a).render = .error breach) ↔
          (∃ breach, (w.get a).render = .error breach) ∨
            ∃ breach, ((w.get b).withWidth (w.get a).width).render = .error breach) ∧
        (after.get a).size = (w.get a).size + (w.get b).size ∧
        (after.get a).level = (w.get a).level ∧ (after.get a).width = (w.get a).width ∧
        ∀ other, other ≠ a → after.get other = w.get other := by
  obtain ⟨w, hw⟩ := exists_run_iff_trace.mpr htrace
  have hu := unbroken_of_run unbroken_empty hclosed hw
  have hget : (w.set a ((w.get a).absorb (w.get b))).get a = (w.get a).absorb (w.get b) :=
    get_set_self w a _
  refine ⟨w, hw, fun l hl => l.unbroken_iff.mp (hu a l hl), fun text => (hu a).text,
    w.set a ((w.get a).absorb (w.get b)), rfl, ?_, ?_, ?_, ?_, ?_, fun other h =>
      get_set_of_ne w _ h⟩
  · rw [hget, LineBuffer.render_absorb]
  · rw [hget, LineBuffer.render_absorb]
    cases (w.get a).render with
    | error breach => simp [bind, Except.bind]
    | ok above =>
      cases ((w.get b).withWidth (w.get a).width).render <;> simp [bind, Except.bind, Except.map]
  · rw [hget]
    exact Array.size_append
  · rw [hget]
    rfl
  · rw [hget]
    rfl

/-- A buffer that absorbs itself, and one with wide levels. -/
def mixedScript : List Instruction :=
  [.step "a" (.openBlock "x \x7b"), .step "a" (.line "y"), .absorb "a" "a", .step "a" .blank,
    .ofWidth "b" 65536, .render "a"]

/-- The first buffer renders as it is, but its lines are too wide for the other one. -/
theorem mixedScript_absorbs :
    (∀ i ∈ mixedScript, i.isClosed) ∧ (∀ answer ∈ empty.trace mixedScript, answer.isOk) ∧
      ∃ w, empty.run mixedScript = .ok w ∧
        (∀ text, (w.get "a").render = .ok text → text.toList.count '\n' = 5) ∧
        ∃ after, w.follow (.absorb "b" "a") = .ok after ∧
          ∃ breach, (after.get "b").render = .error breach := by
  have hclosed : ∀ i ∈ mixedScript, i.isClosed := by decide
  have htrace : ∀ answer ∈ empty.trace mixedScript, answer.isOk := by decide +kernel
  have hrun : empty.run mixedScript = .ok _ := rfl
  obtain ⟨w, hw, -, htext, -⟩ := script_buffers_render_in_turn hclosed htrace "a" "a"
  obtain ⟨v, hv, -, -, after, hafter, -, hbreach, -⟩ :=
    script_buffers_render_in_turn hclosed htrace "b" "a"
  rw [hrun] at hw hv
  cases hw
  cases hv
  refine ⟨hclosed, htrace, _, hrun, fun text h => (htext text h).1, after, hafter, ?_⟩
  exact hbreach.mpr (.inr ⟨.tooWide, rfl⟩)

end Workbench

end SampleModels
