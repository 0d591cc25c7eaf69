import SampleModels.Generation
import SampleModels.Proofs.Layout.Printable

/-!
# When generated source is too wide

How deep the lines of a tree go is told by the kinds of its statements. Where an inferred tree has
no source, it is since its deepest lines are too wide: no other rule of line buffers is broken, and
the spaces of the first line that is too wide can still be counted.
-/

namespace SampleModels

namespace Statement

def fillsList : Statement → Bool
  | .list .. => true
  | _ => false

def readsScalar : Statement → Bool
  | .scalar .. => true
  | _ => false

/-- The level of the deepest lines of the statement. -/
def deepestLevel (s : Statement) : Nat :=
  if s.fillsList then 4 else if s.readsScalar then 3 else 2

theorem level_le_deepestLevel (s : Statement) : ∀ l ∈ s.lines, l.level ≤ s.deepestLevel := by
  cases s <;> simp [lines, deepestLevel, fillsList, readsScalar]

theorem exists_deepest (s : Statement) : ∃ l ∈ s.lines, l.level = s.deepestLevel := by
  cases s <;> simp [lines, deepestLevel, fillsList, readsScalar]

/-- The level of the deepest lines of a class, or of several, with these statements. -/
def deepestAmong (statements : List Statement) : Nat :=
  if statements.any fillsList then 4
  else if statements.any readsScalar then 3
  else if statements ≠ [] then 2
  else 1

/-- No statement goes deeper, and one goes as deep, unless there are none. -/
theorem deepestAmong_spec (statements : List Statement) :
    (∀ s ∈ statements, s.deepestLevel ≤ deepestAmong statements) ∧
      (deepestAmong statements = 1 ∨
        ∃ s ∈ statements, s.deepestLevel = deepestAmong statements) := by
  unfold deepestAmong
  by_cases hl : statements.any fillsList
  · obtain ⟨s, hs, hfills⟩ := List.any_eq_true.mp hl
    refine ⟨fun t _ => ?_, .inr ⟨s, hs, ?_⟩⟩
    · rw [if_pos hl, deepestLevel]
      split_ifs <;> omega
    · rw [if_pos hl, deepestLevel, if_pos hfills]
  · have hfills : ∀ s ∈ statements, ¬ s.fillsList := by simpa using hl
    rw [if_neg hl]
    by_cases hr : statements.any readsScalar
    · obtain ⟨s, hs, hreads⟩ := List.any_eq_true.mp hr
      refine ⟨fun t ht => ?_, .inr ⟨s, hs, ?_⟩⟩
      · rw [if_pos hr, deepestLevel, if_neg (hfills t ht)]
        split_ifs <;> omega
      · rw [if_pos hr, deepestLevel, if_neg (hfills s hs), if_pos hreads]
    · have hreads : ∀ s ∈ statements, ¬ s.readsScalar := by simpa using hr
      have htwo : ∀ s ∈ statements, s.deepestLevel = 2 := by
        intro s hs
        rw [deepestLevel, if_neg (hfills s hs), if_neg (hreads s hs)]
      rw [if_neg hr]
      cases statements with
      | nil => exact ⟨by simp, .inl rfl⟩
      | cons s rest =>
        exact ⟨fun t ht => Nat.le_of_eq (htwo t ht),
          .inr ⟨s, List.mem_cons_self, htwo s List.mem_cons_self⟩⟩

end Statement

namespace Model

/-- The level of the deepest lines of a model and those below it. -/
def deepestLevel (m : Model) : Nat :=
  Statement.deepestAmong (m.preorder.flatMap Model.initializer)

theorem one_le_deepestLevel (m : Model) : 1 ≤ m.deepestLevel := by
  unfold deepestLevel Statement.deepestAmong
  split_ifs <;> omega

theorem deepestLevel_le (m : Model) : m.deepestLevel ≤ 4 := by
  unfold deepestLevel Statement.deepestAmong
  split_ifs <;> omega

theorem level_le_deepestLevel (m : Model) : ∀ l ∈ m.layout, l.level ≤ m.deepestLevel := by
  have hone := m.one_le_deepestLevel
  rw [forall_mem_layout (P := fun l => l.level ≤ m.deepestLevel) (Nat.zero_le _)]
  intro n hn
  have hstatements : ∀ s ∈ n.initializer, ∀ l ∈ s.lines, l.level ≤ m.deepestLevel := by
    intro s hs l hl
    have hle := (Statement.deepestAmong_spec _).1 s (List.mem_flatMap.mpr ⟨n, hn, hs⟩)
    exact Nat.le_trans (s.level_le_deepestLevel l hl) hle
  simp only [classLines, initializerLines, List.cons_append, List.forall_mem_cons,
    List.forall_mem_append, List.forall_mem_map, List.forall_mem_flatMap]
  refine ⟨Nat.zero_le _, ⟨fun _ _ => hone, hone, hstatements, hone, ?_⟩, Nat.zero_le _, ?_⟩
  · exact List.forall_mem_nil _
  · exact List.forall_mem_nil _

theorem exists_deepest (m : Model) :
    ∃ n ∈ m.preorder, ∃ l ∈ n.classLines, l.text ≠ "" ∧ l.level = m.deepestLevel := by
  rcases (Statement.deepestAmong_spec (m.preorder.flatMap Model.initializer)).2 with h | ⟨s, hs, h⟩
  · refine ⟨m, by simp [preorder_eq m], ⟨1, "\x7d"⟩, ?_, by simp, h.symm⟩
    simp [classLines, initializerLines]
  · obtain ⟨n, hn, hs⟩ := List.mem_flatMap.mp hs
    obtain ⟨l, hl, hlevel⟩ := s.exists_deepest
    have hmem : l ∈ n.initializer.flatMap Statement.lines := List.mem_flatMap.mpr ⟨s, hs, hl⟩
    refine ⟨n, hn, l, ?_, s.text_ne_empty_of_mem_lines l hl, hlevel.trans h⟩
    simp [classLines, initializerLines, hmem]

/-- The lines of a tree fit when the deepest ones do. -/
theorem forall_fits_iff (m : Model) (width : Nat) :
    (∀ l ∈ m.layout, l.Fits width) ↔ m.deepestLevel * width ≤ maxIndent := by
  constructor
  · intro h
    rw [forall_mem_layout (P := Line.Fits width) (.inl rfl)] at h
    obtain ⟨n, hn, l, hl, hne, hlevel⟩ := m.exists_deepest
    rw [← hlevel]
    exact (h n hn l hl).resolve_left hne
  · intro h l hl
    exact .inr (Nat.le_trans (Nat.mul_le_mul_right width (m.level_le_deepestLevel l hl)) h)

/-- The first lines of a layout: the header of a class, and a line inside it. -/
theorem exists_layout_eq (m : Model) : ∃ header text rest,
    m.layout = ⟨0, header⟩ :: ⟨1, text⟩ :: rest ∧ text ≠ "" := by
  cases h : m.fields with
  | nil => exact ⟨_, _, _, by rw [layout, classLines, h]; rfl, by simp⟩
  | cons field fields =>
    exact ⟨_, field.line.text, _, by rw [layout, classLines, h]; rfl, by simp [Field.line]⟩

/-- Before there are too many spaces to be counted, there are too many on a line above. Where the
width alone is too many, the second line of the layout is too wide already, so the one at fault is
not below it. -/
theorem breach_eq_tooWide {m : Model} {settings : Settings} {breach : Breach}
    (hw : settings.indentWidth < wordSize) (hu : ∀ l ∈ m.layout, l.Unbroken)
    (h : m.render settings = .error breach) : breach = .tooWide := by
  rw [render_of_unbroken hu] at h
  obtain ⟨before, l, after, hlines, hb, hl, rfl⟩ := LineBuffer.exists_of_render_eq_error h
  replace hlines : m.layout = before ++ l :: after := hlines
  have hlevel : l.level ≤ 4 :=
    Nat.le_trans (m.level_le_deepestLevel l (by simp [hlines])) m.deepestLevel_le
  have hsize : maxIndent * 4 < wordSize := by decide
  refine if_neg (Nat.not_le.mpr ?_)
  show l.level * settings.indentWidth < wordSize
  by_cases hle : settings.indentWidth ≤ maxIndent
  · have hmul := Nat.mul_le_mul hlevel hle
    omega
  · obtain ⟨header, text, rest, hlayout, hne⟩ := m.exists_layout_eq
    rw [hlayout] at hlines
    rcases before with _ | ⟨first, _ | ⟨second, before⟩⟩
    · cases hlines
      exact absurd (.inr (by simp)) hl
    · cases hlines
      simpa using hw
    · cases hlines
      have hfits := (hb ⟨1, text⟩ (by simp)).resolve_left hne
      exact absurd (by simpa using hfits) hle

theorem exists_render_iff_deepestLevel {m : Model} {settings : Settings}
    (hu : ∀ l ∈ m.layout, l.Unbroken) :
    (∃ text, m.render settings = .ok text) ↔
      m.deepestLevel * settings.indentWidth ≤ maxIndent := by
  rw [exists_render_iff_fits hu, forall_fits_iff]

theorem render_eq_error_iff {m : Model} {settings : Settings} {breach : Breach}
    (hw : settings.indentWidth < wordSize) (hu : ∀ l ∈ m.layout, l.Unbroken) :
    m.render settings = .error breach ↔
      breach = .tooWide ∧ maxIndent < m.deepestLevel * settings.indentWidth := by
  have hsource := @exists_render_iff_deepestLevel m settings hu
  constructor
  · intro h
    refine ⟨breach_eq_tooWide hw hu h, Nat.lt_of_not_le fun hle => ?_⟩
    obtain ⟨text, htext⟩ := hsource.mpr hle
    rw [h] at htext
    cases htext
  · rintro ⟨rfl, hlt⟩
    cases h : m.render settings with
    | ok text => exact absurd (hsource.mp ⟨text, h⟩) (Nat.not_le.mpr hlt)
    | error breach => rw [breach_eq_tooWide hw hu h]

end Model

theorem generate_eq_ok_iff {sample : Json} {rootName : String} {settings : Settings} {m : Model}
    (h : infer sample rootName settings = .ok m) (source : String) :
    generate sample rootName settings = .ok source ↔ m.render settings = .ok source := by
  rw [generate, h]
  cases hr : m.render settings <;> simp [hr]

theorem exists_model_of_generate {sample : Json} {rootName : String} {settings : Settings}
    {source : String} (h : generate sample rootName settings = .ok source) :
    ∃ m, infer sample rootName settings = .ok m ∧ m.render settings = .ok source := by
  cases hm : infer sample rootName settings with
  | error fault =>
    rw [generate, hm] at h
    cases h
  | ok m => exact ⟨m, rfl, (generate_eq_ok_iff hm source).mp h⟩

theorem generate_eq_breach_iff {sample : Json} {rootName : String} {settings : Settings} {m : Model}
    (h : infer sample rootName settings = .ok m) (breach : Breach) :
    generate sample rootName settings = .error (.breach breach) ↔
      m.render settings = .error breach := by
  rw [generate, h]
  cases hr : m.render settings <;> simp [hr]

/-- Generating source breaks off when the deepest lines of the tree are too wide, and for no other
reason. With at most 16383 spaces to a level it never does. -/
theorem generate_breaks_off_iff_too_wide (sample : Json) (rootName : String) (settings : Settings)
    (hw : settings.indentWidth < wordSize) :
    (∀ m, infer sample rootName settings = .ok m →
      ((∃ source, generate sample rootName settings = .ok source) ↔
        m.deepestLevel * settings.indentWidth ≤ 65535) ∧
      ∀ breach, generate sample rootName settings = .error (.breach breach) ↔
        breach = .tooWide ∧ 65535 < m.deepestLevel * settings.indentWidth) ∧
    Breach.message .tooWide = "Formatting argument out of range" ∧
    (settings.indentWidth ≤ 16383 →
      ∀ breach, generate sample rootName settings ≠ .error (.breach breach)) := by
  have hbreach : ∀ m, infer sample rootName settings = .ok m → ∀ breach,
      generate sample rootName settings = .error (.breach breach) ↔
        breach = .tooWide ∧ 65535 < m.deepestLevel * settings.indentWidth := by
    intro m hm breach
    rw [generate_eq_breach_iff hm]
    exact Model.render_eq_error_iff hw (Inference.unbroken_of_infer hm)
  refine ⟨fun m hm => ⟨?_, hbreach m hm⟩, rfl, ?_⟩
  · simp only [generate_eq_ok_iff hm]
    exact Model.exists_render_iff_deepestLevel (Inference.unbroken_of_infer hm)
  · intro hle breach hb
    cases hm : infer sample rootName settings with
    | error fault =>
      rw [generate, hm] at hb
      cases hb
    | ok m =>
      have hlt := ((hbreach m hm breach).mp hb).2
      have hmul := Nat.mul_le_mul m.deepestLevel_le hle
      omega

/-- The list in the order goes four levels deep. -/
theorem order_too_wide :
    (∃ m, infer Inference.orderSample "Order" ⟨true, 16384⟩ = .ok m ∧ m.deepestLevel = 4) ∧
      generate Inference.orderSample "Order" ⟨true, 16384⟩ = .error (.breach .tooWide) ∧
      ∀ breach, generate Inference.orderSample "Order" ⟨true, 16383⟩ ≠ .error (.breach breach) := by
  have h : infer Inference.orderSample "Order" ⟨true, 16384⟩ =
      .ok (Inference.sampleOutline true "Order" Inference.orderSample) := rfl
  have hd : (Inference.sampleOutline true "Order" Inference.orderSample).deepestLevel = 4 := rfl
  obtain ⟨hwide, -, -⟩ :=
    generate_breaks_off_iff_too_wide Inference.orderSample "Order" ⟨true, 16384⟩ (by decide)
  obtain ⟨-, -, hnarrow⟩ :=
    generate_breaks_off_iff_too_wide Inference.orderSample "Order" ⟨true, 16383⟩ (by decide)
  refine ⟨⟨_, h, hd⟩, ((hwide _ h).2 _).mpr ⟨rfl, ?_⟩, hnarrow (by decide)⟩
  rw [hd]
  decide

end SampleModels
