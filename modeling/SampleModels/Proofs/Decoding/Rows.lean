import SampleModels.Proofs.Layout.Classes

/-!
# Reading the lines of each class back

No line holds a line break and no line of a class is empty, so the line breaks of a source tell its
lines apart, and the empty lines its classes.
-/

namespace SampleModels

section Cuts

variable {α : Type} {a : α} {xs ys xs' ys' : List α}

/-- Cutting at the first `a`. -/
theorem append_cons_inj_of_notMem_left (h : a ∉ xs) (h' : a ∉ xs')
    (he : xs ++ a :: ys = xs' ++ a :: ys') : xs = xs' ∧ ys = ys' := by
  rcases List.append_eq_append_iff.mp he with ⟨cut, rfl, hc⟩ | ⟨cut, rfl, hc⟩
  · cases cut with
    | nil => simpa using hc
    | cons b cut => cases hc; exact absurd (by simp) h'
  · cases cut with
    | nil => simpa [eq_comm] using hc
    | cons b cut => cases hc; exact absurd (by simp) h

/-- Cutting at the last `a`. -/
theorem append_cons_inj_of_notMem_right (h : a ∉ ys) (h' : a ∉ ys')
    (he : xs ++ a :: ys = xs' ++ a :: ys') : xs = xs' ∧ ys = ys' := by
  have hr := congrArg List.reverse he
  simp only [List.reverse_append, List.reverse_cons, List.append_assoc, List.singleton_append] at hr
  obtain ⟨hy, hx⟩ := append_cons_inj_of_notMem_left (by simpa using h) (by simpa using h') hr
  exact ⟨List.reverse_inj.mp hx, List.reverse_inj.mp hy⟩

/-- Cutting at the last `a` that `b` follows. -/
theorem append_cons_cons_inj_of_not_infix {b : α} (hne : a ≠ b) (h : ¬ [a, b] <:+: ys)
    (h' : ¬ [a, b] <:+: ys') (he : xs ++ a :: b :: ys = xs' ++ a :: b :: ys') : xs = xs' := by
  rcases List.append_eq_append_iff.mp he with ⟨cut, rfl, hc⟩ | ⟨cut, rfl, hc⟩
  · rcases cut with _ | ⟨c, _ | ⟨d, cut⟩⟩
    · simp
    · cases hc; exact absurd rfl hne
    · cases hc; exact absurd ⟨cut, ys', by simp⟩ h
  · rcases cut with _ | ⟨c, _ | ⟨d, cut⟩⟩
    · simp
    · cases hc; exact absurd rfl hne
    · cases hc; exact absurd ⟨cut, ys, by simp⟩ h'

/-- Blocks that each end with the only `a` in them can be told apart. -/
theorem eq_of_flatMap_concat {blocks blocks' : List (List α)} (h : ∀ b ∈ blocks, a ∉ b)
    (h' : ∀ b ∈ blocks', a ∉ b)
    (he : blocks.flatMap (· ++ [a]) = blocks'.flatMap (· ++ [a])) : blocks = blocks' := by
  induction blocks generalizing blocks' with
  | nil =>
    cases blocks' with
    | nil => rfl
    | cons b' blocks' => simp at he
  | cons b blocks ih =>
    cases blocks' with
    | nil => simp at he
    | cons b' blocks' =>
      rw [List.forall_mem_cons] at h h'
      simp only [List.flatMap_cons, List.append_assoc, List.singleton_append] at he
      obtain ⟨rfl, hrest⟩ := append_cons_inj_of_notMem_left h.1 h'.1 he
      rw [ih h.2 h'.2 hrest]

end Cuts

namespace Line

theorem row_of_ne {width : Nat} {l : Line} (h : l.text ≠ "") :
    l.row width = List.replicate (l.level * width) ' ' ++ l.text.toList := if_neg h

theorem row_ne_nil {width : Nat} {l : Line} (h : l.text ≠ "") : l.row width ≠ [] := by
  rw [row_of_ne h]
  simp [h]

theorem getLast?_row {width : Nat} {l : Line} (h : l.text ≠ "") :
    (l.row width).getLast? = l.text.toList.getLast? := by
  rw [row_of_ne h, List.getLast?_append, Option.or_of_isSome (by simp [h])]

/-- Lines of one level with the same row have the same text. -/
theorem row_injective {width level : Nat} {text text' : String}
    (h : row width ⟨level, text⟩ = row width ⟨level, text'⟩) : text = text' := by
  by_cases ht : text = ""
  · subst ht
    refine Classical.byContradiction fun ht' => ?_
    exact row_ne_nil (l := ⟨level, text'⟩) (Ne.symm ht') h.symm
  · have ht' : text' ≠ "" := by
      rintro rfl
      exact row_ne_nil (l := ⟨level, text⟩) ht h
    rw [row_of_ne ht, row_of_ne ht', List.append_cancel_left_eq] at h
    exact String.toList_inj.mp h

theorem unbroken_iff (l : Line) :
    l.Unbroken ↔ '\n' ∉ l.text.toList ∧ '\r' ∉ l.text.toList := by
  unfold Unbroken LineBuffer.breaksLine
  rw [List.any_eq_false]
  simp only [Bool.or_eq_true, beq_iff_eq, not_or]
  constructor
  · intro h
    exact ⟨fun hm => (h _ hm).1 rfl, fun hm => (h _ hm).2 rfl⟩
  · rintro ⟨hn, hr⟩ c hc
    refine ⟨?_, ?_⟩
    · rintro rfl
      exact hn hc
    · rintro rfl
      exact hr hc

/-- Only spaces are put before the text. -/
theorem notMem_row {l : Line} {c : Char} (hc : c ≠ ' ') (h : c ∉ l.text.toList) (width : Nat) :
    c ∉ l.row width := by
  unfold row
  split
  · exact List.not_mem_nil
  · rw [List.mem_append, not_or]
    exact ⟨fun hm => hc (List.eq_of_mem_replicate hm), h⟩

theorem Unbroken.newline_notMem_row {width : Nat} {l : Line} (h : l.Unbroken) :
    '\n' ∉ l.row width := notMem_row (by decide) (l.unbroken_iff.mp h).1 width

theorem getLast?_flatMap_row {lines : List Line} (h : lines ≠ []) (width : Nat) :
    (lines.flatMap fun l => l.row width ++ ['\n']).getLast? = some '\n' := by
  obtain ⟨before, l, rfl⟩ := (List.eq_nil_or_concat lines).resolve_left h
  rw [List.concat_eq_append, List.flatMap_append]
  simp

end Line

namespace Model

/-- The lines of the class of a model as they stand in the source. -/
def classRows (width : Nat) (m : Model) : List (List Char) := m.classLines.map (Line.row width)

theorem nil_notMem_classRows (width : Nat) (m : Model) : [] ∉ m.classRows width := by
  intro h
  obtain ⟨l, hl, hr⟩ := List.mem_map.mp h
  exact Line.row_ne_nil (m.text_ne_empty_of_mem_classLines l hl) hr

private theorem rows_followingLines (width : Nat) (ms : List Model) :
    (followingLines ms).map (Line.row width) ++ [[]] =
      [] :: ms.flatMap fun n => n.classRows width ++ [[]] := by
  have hblank : Line.blank.row width = [] := rfl
  induction ms with
  | nil => rfl
  | cons n ms ih =>
    have hcons : followingLines (n :: ms) = .blank :: (n.classLines ++ followingLines ms) := rfl
    rw [hcons, List.map_cons, List.map_append, List.cons_append, List.append_assoc, ih, hblank]
    simp [classRows]

/-- The rows of a tree are those of its classes, with an empty one after each but the last. -/
theorem map_row_layout (width : Nat) (m : Model) :
    m.layout.map (Line.row width) ++ [[]] =
      m.preorder.flatMap fun n => n.classRows width ++ [[]] := by
  rw [layout, preorder_eq, List.map_append, List.append_assoc, rows_followingLines]
  simp [classRows]

/-- The source of a tree tells the lines of its classes. -/
theorem map_classRows_of_render {m m' : Model} {settings settings' : Settings} {text : String}
    (hw : settings.indentWidth = settings'.indentWidth) (h : m.render settings = .ok text)
    (h' : m'.render settings' = .ok text) :
    m.preorder.map (classRows settings.indentWidth) =
      m'.preorder.map (classRows settings.indentWidth) := by
  obtain ⟨hl, ht⟩ := render_eq_ok_iff.mp h
  obtain ⟨hl', ht'⟩ := render_eq_ok_iff.mp h'
  rw [ht, ← hw] at ht'
  have hrows : m.layout.map (Line.row settings.indentWidth) =
      m'.layout.map (Line.row settings.indentWidth) := by
    refine eq_of_flatMap_concat (a := '\n') ?_ ?_ (by simpa only [List.flatMap_map] using ht')
    · exact List.forall_mem_map.mpr fun l hm => (hl l hm).1.newline_notMem_row
    · exact List.forall_mem_map.mpr fun l hm => (hl' l hm).1.newline_notMem_row
  refine eq_of_flatMap_concat (a := []) ?_ ?_ ?_
  · exact List.forall_mem_map.mpr fun n _ => n.nil_notMem_classRows _
  · exact List.forall_mem_map.mpr fun n _ => n.nil_notMem_classRows _
  · rw [List.flatMap_map, List.flatMap_map, ← map_row_layout, ← map_row_layout, hrows]

end Model

end SampleModels
