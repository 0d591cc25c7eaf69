import SampleModels.Proofs.Layout.Width

/-!
# Trees that need not come from a sample

The names and keys of a tree can be any texts. It renders unless one of those that stand in its
source as they are holds a line break, or its deepest lines are too wide. The first line that holds
a line break is told before any line is indented; in a literal a line break is escaped and does no
harm. Each class ends at the level that it was begun at, and no line is more than one level away
from the one before it.
-/

namespace SampleModels

open LineBuffer

namespace LineBuffer

theorem breaksLine_append (s t : String) :
    breaksLine (s ++ t) = (breaksLine s || breaksLine t) := by
  simp [breaksLine, List.any_append]

theorem breaksLine_lookupText (key : String) : breaksLine (lookupText key) = false :=
  (printable_lookupText key).breaksLine

end LineBuffer

theorem Scalar.breaksLine_names (kind : Scalar) :
    breaksLine kind.typeName = false ∧ breaksLine kind.accessor = false ∧
      breaksLine kind.defaultLiteral = false := by cases kind <;> decide

namespace Statement

/-- The key whose value the statement takes over. -/
def key? : Statement → Option String
  | .scalar key _ => some key
  | .passThrough key => some key
  | .nested key _ => some key
  | .list key _ => some key
  | .arrayRoot => none
  | .scalarRoot => none

/-- The texts that stand in the lines of the statement as they are. -/
def rawTexts (s : Statement) : List String := s.key?.toList ++ s.className?.toList

/-- A key stands in a lookup as well, but escaped. -/
theorem forall_unbroken_iff (s : Statement) :
    (∀ l ∈ s.lines, l.Unbroken) ↔ ∀ text ∈ s.rawTexts, breaksLine text = false := by
  cases s with
  | scalar key kind =>
    simp +decide [lines, Line.Unbroken, rawTexts, key?, className?, breaksLine_append,
      breaksLine_lookupText, kind.breaksLine_names]
  | passThrough key =>
    simp +decide [lines, Line.Unbroken, rawTexts, key?, className?, breaksLine_append,
      breaksLine_lookupText]
  | nested key name =>
    simp +decide [lines, Line.Unbroken, rawTexts, key?, className?, breaksLine_append,
      breaksLine_lookupText]
  | list key element =>
    cases element <;>
      simp +decide [lines, Line.Unbroken, rawTexts, key?, className?, breaksLine_append,
        breaksLine_lookupText, ElementType.conversion]
  | arrayRoot => decide
  | scalarRoot => decide

end Statement

namespace Field

def rawTexts (field : Field) : List String := field.name :: field.type.className?.toList

theorem unbroken_iff (field : Field) :
    field.line.Unbroken ↔ ∀ text ∈ field.rawTexts, breaksLine text = false := by
  have hdeclaration : breaksLine field.type.declaration = field.type.className?.any breaksLine := by
    cases field.type with
    | scalar kind => exact kind.breaksLine_names.1
    | list element =>
      cases element with
      | scalar kind => cases kind <;> decide
      | nested name =>
        have hopen : breaksLine "[" = false := by decide
        have hclose : breaksLine "]" = false := by decide
        simp [FieldType.declaration, ElementType.typeName, FieldType.className?, breaksLine_append,
          hopen, hclose]
      | _ => decide
    | _ => rfl
  cases hc : field.type.className? <;>
    simp +decide [line, Line.Unbroken, rawTexts, breaksLine_append, hdeclaration, hc]

end Field

namespace Model

/-- The texts that stand in the class of a model as they are. -/
def classTexts (m : Model) : List String :=
  m.typeName :: (m.fields.flatMap Field.rawTexts ++ m.initializer.flatMap Statement.rawTexts)

/-- The texts that stand in the source of a tree as they are. -/
def rawTexts (m : Model) : List String := m.preorder.flatMap classTexts

theorem forall_unbroken_classLines_iff (m : Model) :
    (∀ l ∈ m.classLines, l.Unbroken) ↔ ∀ text ∈ m.classTexts, breaksLine text = false := by
  have hheader : Line.Unbroken ⟨0, "class " ++ m.typeName ++ " \x7b"⟩ ↔
      breaksLine m.typeName = false := by
    simp +decide [Line.Unbroken, breaksLine_append]
  have hinit : Line.Unbroken ⟨1, "init(json:JSONValue) \x7b"⟩ := rfl
  have hclose : Line.Unbroken ⟨1, "\x7d"⟩ := rfl
  have hend : Line.Unbroken ⟨0, "\x7d"⟩ := rfl
  simp only [classLines, initializerLines, classTexts, List.cons_append, List.forall_mem_cons,
    List.forall_mem_append, List.forall_mem_map, List.forall_mem_flatMap, List.not_mem_nil,
    false_implies, implies_true, hheader, hinit, hclose, hend, Field.unbroken_iff,
    Statement.forall_unbroken_iff, true_and, and_true]

theorem forall_unbroken_iff (m : Model) :
    (∀ l ∈ m.layout, l.Unbroken) ↔ ∀ text ∈ m.rawTexts, breaksLine text = false := by
  simp only [forall_mem_layout (P := Line.Unbroken) rfl, forall_unbroken_classLines_iff, rawTexts,
    List.forall_mem_flatMap]

theorem exists_first_broken {lines : List Line} (h : ¬ ∀ l ∈ lines, l.Unbroken) :
    ∃ before l after, lines = before ++ l :: after ∧ (∀ k ∈ before, k.Unbroken) ∧
      ¬ l.Unbroken := by
  induction lines with
  | nil => exact absurd (List.forall_mem_nil _) h
  | cons l rest ih =>
    by_cases hl : l.Unbroken
    · have hrest : ¬ ∀ k ∈ rest, k.Unbroken := fun hr => h (List.forall_mem_cons.mpr ⟨hl, hr⟩)
      obtain ⟨before, k, after, rfl, hb, hk⟩ := ih hrest
      exact ⟨l :: before, k, after, rfl, List.forall_mem_cons.mpr ⟨hl, hb⟩, hk⟩
    · exact ⟨[], l, rest, rfl, List.forall_mem_nil _, hl⟩

/-- Writing stops at the first line that holds a line break, before anything is rendered. -/
theorem render_of_broken {m : Model} {before after : List Line} {l : Line}
    (hlayout : m.layout = before ++ l :: after) (hb : ∀ k ∈ before, k.Unbroken)
    (hl : ¬ l.Unbroken) (settings : Settings) :
    m.render settings = .error (.lineBreak l.text) := by
  have hbefore : (before.find? fun k => breaksLine k.text) = none :=
    List.find?_eq_none.mpr fun k hk => ne_true_of_eq_false (hb k hk)
  have hfind : (m.layout.find? fun k => breaksLine k.text) = some l := by
    rw [hlayout, List.find?_append, hbefore, Option.none_or]
    exact List.find?_cons_of_pos (eq_true_of_ne_false hl)
  have hwrite : (LineBuffer.ofWidth settings.indentWidth).extend m.layout 0 =
      .error (.lineBreak l.text) := by
    rw [extend, hfind]
  rw [render, writes m _ rfl, hwrite]
  rfl

theorem breach_of_unbroken {m : Model} {settings : Settings} {breach : Breach}
    (hu : ∀ l ∈ m.layout, l.Unbroken) (h : m.render settings = .error breach) :
    breach = .widthOverflow ∨ breach = .tooWide := by
  rw [render_of_unbroken hu] at h
  obtain ⟨-, l, -, -, -, -, rfl⟩ := LineBuffer.exists_of_render_eq_error h
  split
  · exact .inl rfl
  · exact .inr rfl

theorem exists_lineBreak_iff (m : Model) (settings : Settings) :
    (∃ text, m.render settings = .error (.lineBreak text)) ↔ ¬ ∀ l ∈ m.layout, l.Unbroken := by
  constructor
  · rintro ⟨text, h⟩ hu
    rcases breach_of_unbroken hu h with he | he <;> cases he
  · intro hu
    obtain ⟨before, l, after, hlayout, hb, hl⟩ := exists_first_broken hu
    exact ⟨l.text, render_of_broken hlayout hb hl settings⟩

theorem render_eq_lineBreak_iff (m : Model) (settings : Settings) (text : String) :
    m.render settings = .error (.lineBreak text) ↔
      ∃ before l after, m.layout = before ++ l :: after ∧ (∀ k ∈ before, k.Unbroken) ∧
        ¬ l.Unbroken ∧ l.text = text := by
  constructor
  · intro h
    have hbroken := (m.exists_lineBreak_iff settings).mp ⟨text, h⟩
    obtain ⟨before, l, after, hlayout, hb, hl⟩ := exists_first_broken hbroken
    rw [render_of_broken hlayout hb hl] at h
    cases h
    exact ⟨before, l, after, hlayout, hb, hl, rfl⟩
  · rintro ⟨before, l, after, hlayout, hb, hl, rfl⟩
    exact render_of_broken hlayout hb hl settings

end Model

/-- The levels of a block at the left: it begins and ends there, all lines between are deeper, and
from one line to the next the level changes by one at most. -/
structure Balanced (deepest : Nat) (levels : List Nat) : Prop where
  inside : ∃ inner, levels = 0 :: (inner ++ [0]) ∧ ∀ level ∈ inner, 1 ≤ level ∧ level ≤ deepest
  steps : levels.IsChain fun k l => l ≤ k + 1 ∧ k ≤ l + 1

namespace Model

/-- After a line inside a class, its statements go down and come back one level at a time: each of
them begins and ends at level 2. -/
private theorem isChain_statements (statements : List Statement) {k : Nat} (hk : 1 ≤ k ∧ k ≤ 2) :
    (k :: ((statements.flatMap Statement.lines).map Line.level ++ [1, 0])).IsChain
      fun k l => l ≤ k + 1 ∧ k ≤ l + 1 := by
  induction statements generalizing k with
  | nil =>
    simp
    omega
  | cons s rest ih =>
    have hrest := ih (k := 2) (by decide)
    have hstep : 2 ≤ k + 1 ∧ k ≤ 2 + 1 := by omega
    cases s <;> simpa [Statement.lines, hstep] using hrest

private theorem isChain_fields (fields : List Field) {levels : List Nat} {k : Nat} (hk : k ≤ 1)
    (h : (1 :: levels).IsChain fun k l => l ≤ k + 1 ∧ k ≤ l + 1) :
    (k :: ((fields.map Field.line).map Line.level ++ 1 :: levels)).IsChain
      fun k l => l ≤ k + 1 ∧ k ≤ l + 1 := by
  induction fields generalizing k with
  | nil => exact .cons_cons (by omega) h
  | cons field rest ih =>
    have hstep : 1 ≤ k + 1 ∧ k ≤ 1 + 1 := by omega
    exact .cons_cons hstep (ih (Nat.le_refl 1))

/-- The levels of a class are put together from its end: its statements, and the fields before
them. -/
theorem balanced_classLines (m : Model) : Balanced 4 (m.classLines.map Line.level) := by
  refine ⟨⟨m.bodyLines.map Line.level, ?_, ?_⟩, ?_⟩
  · simp [classLines_eq]
  · exact List.forall_mem_map.mpr m.level_of_mem_bodyLines
  · have hchain := isChain_fields m.fields (Nat.zero_le 1)
      (isChain_statements m.initializer (by decide))
    simpa [classLines, initializerLines] using hchain

/-- Rendering breaks off when a text that stands in the source as it is holds a line break, and then
at the first line that holds one. Otherwise every class is balanced, and rendering breaks off only
when the deepest lines are too wide. -/
theorem render_breaks_off_at_line_break_or_width (m : Model) (settings : Settings) :
    (∀ breach, m.render settings = .error breach →
      (∃ text, breach = .lineBreak text) ∨ breach = .widthOverflow ∨ breach = .tooWide) ∧
    ((∃ text, m.render settings = .error (.lineBreak text)) ↔
      ∃ text ∈ m.rawTexts, breaksLine text) ∧
    (∀ text, m.render settings = .error (.lineBreak text) ↔
      ∃ before l after, m.layout = before ++ l :: after ∧ (∀ k ∈ before, k.Unbroken) ∧
        ¬ l.Unbroken ∧ l.text = text) ∧
    ((∀ text ∈ m.rawTexts, breaksLine text = false) →
      ((∃ source, m.render settings = .ok source) ↔
        m.deepestLevel * settings.indentWidth ≤ maxIndent) ∧
      ∃ b, m.write (.ofWidth settings.indentWidth) = .ok b ∧ b.level = 0 ∧
        b.lines.toList = [Line.blank].intercalate (m.preorder.map classLines) ∧
        ∀ n ∈ m.preorder, Balanced 4 (n.classLines.map Line.level)) := by
  refine ⟨?_, ?_, m.render_eq_lineBreak_iff settings, ?_⟩
  · intro breach h
    by_cases hu : ∀ l ∈ m.layout, l.Unbroken
    · exact .inr (breach_of_unbroken hu h)
    · obtain ⟨text, htext⟩ := (m.exists_lineBreak_iff settings).mpr hu
      rw [h] at htext
      exact .inl ⟨text, Except.error.inj htext⟩
  · rw [exists_lineBreak_iff, forall_unbroken_iff]
    simp
  · intro htexts
    have hu := m.forall_unbroken_iff.mpr htexts
    have hwrite : (LineBuffer.ofWidth settings.indentWidth).extend m.layout 0 = .ok _ :=
      extend_eq_ok_iff.mpr ⟨hu, rfl⟩
    refine ⟨exists_render_iff_deepestLevel hu, _, (writes m _ rfl).trans hwrite, rfl, ?_, ?_⟩
    · rw [← layout_eq_intercalate]
      simp [LineBuffer.ofWidth]
    · exact fun n _ => n.balanced_classLines

/-- A tree that no sample has: its statements and children do not go with its fields. -/
def mismatched (key : String) : Model :=
  ⟨"Box", .root, [], [.nested "lid" "Lid"],
    [⟨"Hinge", .root, [⟨"pin", .list .rawJson⟩], [.scalar key .string], []⟩]⟩

/-- The key is escaped where it is looked up, so the line after that is the first to hold its line
break. It is told although the lines are too wide as well. -/
theorem breaches_of_mismatched :
    (mismatched "a\nb").render ⟨false, 65536⟩ = .error (.lineBreak "a\nb = value") ∧
      (∃ source, (mismatched "a b").render ⟨false, 21845⟩ = .ok source) ∧
      ∀ source, (mismatched "a b").render ⟨false, 21846⟩ ≠ .ok source := by
  obtain ⟨-, -, hbroken, -⟩ :=
    render_breaks_off_at_line_break_or_width (mismatched "a\nb") ⟨false, 65536⟩
  obtain ⟨-, -, -, hfits⟩ :=
    render_breaks_off_at_line_break_or_width (mismatched "a b") ⟨false, 21845⟩
  obtain ⟨-, -, -, hwide⟩ :=
    render_breaks_off_at_line_break_or_width (mismatched "a b") ⟨false, 21846⟩
  have htexts : ∀ text ∈ (mismatched "a b").rawTexts, breaksLine text = false := by decide
  have hdeepest : (mismatched "a b").deepestLevel = 3 := by decide
  refine ⟨(hbroken _).mpr ?_, (hfits htexts).1.mpr ?_, fun source h => ?_⟩
  · exact ⟨(mismatched "a\nb").layout.take 10, ⟨3, "a\nb = value"⟩,
      (mismatched "a\nb").layout.drop 11, by decide +kernel, by decide +kernel, by decide, rfl⟩
  · rw [hdeepest]
    decide
  · have hle := (hwide htexts).1.mp ⟨source, h⟩
    rw [hdeepest] at hle
    exact absurd hle (by decide)

end Model

end SampleModels
