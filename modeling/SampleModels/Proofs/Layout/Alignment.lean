import SampleModels.Proofs.Decoding.Headers
import SampleModels.Proofs.Layout.Balance
import SampleModels.Text.Split

/-!
# Lines that begin at their level

A line begins with the spaces of its level, and its text follows. The text begins with a blank when
it begins with a key that is empty or begins with a blank itself, and only then. Such a key is
accepted for any field that holds no object, and the lines of its statement that begin with it do
not begin at their level.
-/

namespace SampleModels

namespace Text

/-- The number of blanks that a row begins with. -/
def indentation (row : List Char) : Nat := (row.takeWhile isBlank).length

/-- The text begins with a character that is no blank. -/
def beginsVisibly (text : String) : Bool := text.toList.head?.any fun c => !isBlank c

theorem beginsVisibly_append (s t : String) :
    beginsVisibly (s ++ t) = if s = "" then beginsVisibly t else beginsVisibly s := by
  split
  · next hs => rw [hs, String.empty_append]
  · next hs =>
    obtain ⟨c, cs, hcs⟩ := List.exists_cons_of_ne_nil (mt String.toList_eq_nil_iff.mp hs)
    simp [beginsVisibly, hcs]

theorem beginsVisibly_append_of_visible {s : String} (h : beginsVisibly s) (t : String) :
    beginsVisibly (s ++ t) := by
  rw [beginsVisibly_append]
  split
  · next hs =>
    rw [hs] at h
    cases h
  · exact h

end Text

namespace Line

/-- The row of the line begins with the spaces of its level, and a character that is no blank
follows. -/
def Aligned (width : Nat) (l : Line) : Prop :=
  Text.indentation (l.row width) = l.level * width ∧ l.level * width < (l.row width).length

instance (width : Nat) (l : Line) : Decidable (l.Aligned width) :=
  inferInstanceAs (Decidable (_ ∧ _))

theorem aligned_iff {l : Line} (hne : l.text ≠ "") (width : Nat) :
    l.Aligned width ↔ Text.beginsVisibly l.text := by
  obtain ⟨c, cs, hcs⟩ := List.exists_cons_of_ne_nil (mt String.toList_eq_nil_iff.mp hne)
  have hspaces : ∀ d ∈ List.replicate (l.level * width) ' ', Text.isBlank d = true := by
    intro d hd
    rw [List.eq_of_mem_replicate hd]
    decide
  rw [Aligned, Text.indentation, row_of_ne hne, List.takeWhile_append_of_pos hspaces, hcs,
    Text.beginsVisibly, hcs]
  cases hc : Text.isBlank c <;> simp [hc]

end Line

namespace Statement

open Text

private theorem nestedText_eq (key name : String) :
    key ++ " = " ++ name ++ "(json:" ++ lookupText key ++ ")" =
      key ++ (" = " ++ (name ++ "(json:" ++ lookupText key ++ ")")) := by
  simp only [String.append_assoc]

/-- A line of a statement begins visibly unless it begins with the key. -/
theorem beginsVisibly_or_key (s : Statement) : ∀ l ∈ s.lines, beginsVisibly l.text ∨
    ∃ key after, s.key? = some key ∧ l.text = key ++ after := by
  cases s with
  | scalar key kind =>
    simp only [lines, List.forall_mem_cons]
    refine ⟨.inl (by simp +decide [beginsVisibly_append]), .inr ⟨key, _, rfl, rfl⟩,
      .inl (by decide), .inr ⟨key, _, rfl, String.append_assoc ..⟩, .inl (by decide), ?_⟩
    exact List.forall_mem_nil _
  | passThrough key =>
    exact List.forall_mem_singleton.mpr (.inr ⟨key, _, rfl, String.append_assoc ..⟩)
  | nested key name =>
    exact List.forall_mem_singleton.mpr (.inr ⟨key, _, rfl, nestedText_eq key name⟩)
  | list key element =>
    have htext : key ++ ".append(" ++ element.conversion ++ ")" =
        key ++ (".append(" ++ element.conversion ++ ")") := by
      simp only [String.append_assoc]
    simp only [lines, List.forall_mem_cons]
    refine ⟨.inr ⟨key, _, rfl, rfl⟩, .inl (by simp +decide [beginsVisibly_append]),
      .inl (by decide), .inr ⟨key, _, rfl, htext⟩, .inl (by decide), .inl (by decide), ?_⟩
    exact List.forall_mem_nil _
  | arrayRoot => exact List.forall_mem_singleton.mpr (.inl (by decide))
  | scalarRoot => exact List.forall_mem_singleton.mpr (.inl (by decide))

/-- One line assigns to the key. -/
theorem exists_assignment {s : Statement} {key : String} (h : s.key? = some key) :
    ∃ l ∈ s.lines, ∃ value, l.text = key ++ (" = " ++ value) := by
  cases s with
  | scalar key kind =>
    cases h
    exact ⟨_, List.mem_cons_of_mem _ List.mem_cons_self, "value", rfl⟩
  | passThrough key =>
    cases h
    exact ⟨_, List.mem_cons_self, _, String.append_assoc ..⟩
  | nested key name =>
    cases h
    exact ⟨_, List.mem_cons_self, _, nestedText_eq key name⟩
  | list key element =>
    cases h
    exact ⟨_, List.mem_cons_self, "[]", rfl⟩
  | arrayRoot => cases h
  | scalarRoot => cases h

end Statement

/-- The field is filled, and its key begins with a blank or is empty. -/
def Field.BeginsBlank (field : Field) : Prop :=
  field.type ≠ .dynamic ∧ Text.beginsVisibly field.name = false

instance (field : Field) : Decidable field.BeginsBlank := inferInstanceAs (Decidable (_ ∧ _))

namespace Model

theorem key_of_mem_initializer {m : Model} (h : m.Regular) {s : Statement} {key : String}
    (hs : s ∈ m.initializer) (hkey : s.key? = some key) :
    ∃ field ∈ m.fields, field.type ≠ .dynamic ∧ field.name = key := by
  rcases h.initializer with hi | ⟨-, hi | hi⟩ <;> rw [hi] at hs
  · obtain ⟨⟨name, type⟩, hfield, hstatement⟩ := List.mem_filterMap.mp hs
    refine ⟨⟨name, type⟩, hfield, ?_⟩
    cases type <;> cases hstatement <;> cases hkey <;> exact ⟨nofun, rfl⟩
  · rw [List.mem_singleton.mp hs] at hkey
    cases hkey
  · rw [List.mem_singleton.mp hs] at hkey
    cases hkey

theorem exists_statement_of_field {m : Model} (h : m.Regular) {field : Field}
    (hfield : field ∈ m.fields) (htype : field.type ≠ .dynamic) :
    ∃ s ∈ m.initializer, s.key? = some field.name := by
  have hi : m.initializer = m.fields.filterMap Field.statement? := by
    refine h.initializer.resolve_right fun hnote => ?_
    rw [hnote.1] at hfield
    cases hfield
  have hstatement : ∃ s, field.statement? = some s ∧ s.key? = some field.name := by
    obtain ⟨name, type⟩ := field
    cases type with
    | dynamic => exact absurd rfl htype
    | _ => exact ⟨_, rfl, rfl⟩
  obtain ⟨s, hs, hkey⟩ := hstatement
  rw [hi]
  exact ⟨s, List.mem_filterMap.mpr ⟨field, hfield, hs⟩, hkey⟩

theorem beginsVisibly_or_statement (m : Model) : ∀ l ∈ m.classLines,
    Text.beginsVisibly l.text ∨ ∃ s ∈ m.initializer, l ∈ s.lines := by
  simp only [classLines, initializerLines, List.cons_append, List.forall_mem_cons,
    List.forall_mem_append, List.forall_mem_map, List.forall_mem_flatMap]
  refine ⟨.inl ?_, ⟨fun field _ => .inl ?_, .inl (by decide), fun s hs l hl => .inr ⟨s, hs, hl⟩,
    .inl (by decide), List.forall_mem_nil _⟩, .inl (by decide), List.forall_mem_nil _⟩
  · simp +decide [Text.beginsVisibly_append]
  · simp +decide [Field.line, Text.beginsVisibly_append]

/-- A line of a class begins visibly, or with a key that does not. -/
theorem Regular.beginsVisibly_or_key {m : Model} (h : m.Regular) : ∀ l ∈ m.classLines,
    Text.beginsVisibly l.text ∨
      ∃ field ∈ m.fields, field.BeginsBlank ∧ field.name.toList <+: l.text.toList := by
  intro l hl
  by_cases hvisible : Text.beginsVisibly l.text
  · exact .inl hvisible
  · obtain ⟨s, hs, hls⟩ := (m.beginsVisibly_or_statement l hl).resolve_left hvisible
    obtain ⟨key, after, hkey, htext⟩ := (s.beginsVisibly_or_key l hls).resolve_left hvisible
    obtain ⟨field, hfield, htype, rfl⟩ := key_of_mem_initializer h hs hkey
    refine .inr ⟨field, hfield, ⟨htype, ?_⟩, ?_⟩
    · refine eq_false_of_ne_true fun hkey => hvisible ?_
      rw [htext]
      exact Text.beginsVisibly_append_of_visible hkey after
    · rw [htext, String.toList_append]
      exact List.prefix_append _ _

/-- A key that begins with a blank begins a line. After an empty key the line begins with the blank
before the equals sign. -/
theorem Regular.exists_line_of_beginsBlank {m : Model} (h : m.Regular) {field : Field}
    (hfield : field ∈ m.fields) (hblank : field.BeginsBlank) :
    ∃ l ∈ m.classLines, Text.beginsVisibly l.text = false := by
  obtain ⟨s, hs, hkey⟩ := exists_statement_of_field h hfield hblank.1
  obtain ⟨l, hl, value, htext⟩ := s.exists_assignment hkey
  have hmem : l ∈ m.initializer.flatMap Statement.lines := List.mem_flatMap.mpr ⟨s, hs, hl⟩
  refine ⟨l, by simp [classLines, initializerLines, hmem], ?_⟩
  rw [htext, Text.beginsVisibly_append]
  split
  · simp +decide [Text.beginsVisibly_append]
  · exact hblank.2

end Model

/-- A line of generated source begins at its level, unless it begins with the key of a field that is
empty or begins with a blank. All lines do when there is no such field, and only then. -/
theorem aligned_unless_key_begins_blank {sample : Json} {rootName : String} {settings : Settings}
    {source : String} (h : generate sample rootName settings = .ok source) :
    ∃ m, infer sample rootName settings = .ok m ∧
      Text.lines source = m.layout.map (Line.row settings.indentWidth) ++ [[]] ∧
      (∀ n ∈ m.preorder, ∀ l ∈ n.classLines, l.Aligned settings.indentWidth ∨
        ∃ field ∈ n.fields, field.BeginsBlank ∧ field.name.toList <+: l.text.toList) ∧
      ((∀ l ∈ m.layout, l.row settings.indentWidth ≠ [] → l.Aligned settings.indentWidth) ↔
        ∀ n ∈ m.preorder, ∀ field ∈ n.fields, ¬ field.BeginsBlank) := by
  obtain ⟨m, hm, hrender⟩ := exists_model_of_generate h
  have hregular := Inference.regular_of_infer hm
  have haligned {n : Model} {l : Line} (hl : l ∈ n.classLines) :
      l.Aligned settings.indentWidth ↔ Text.beginsVisibly l.text :=
    Line.aligned_iff (n.text_ne_empty_of_mem_classLines l hl) settings.indentWidth
  have hlines : ∀ n ∈ m.preorder, ∀ l ∈ n.classLines, l.Aligned settings.indentWidth ∨
      ∃ field ∈ n.fields, field.BeginsBlank ∧ field.name.toList <+: l.text.toList := by
    intro n hn l hl
    rw [haligned hl]
    exact (hregular n hn).beginsVisibly_or_key l hl
  refine ⟨m, hm, Model.lines_eq_of_render hrender, hlines, ?_⟩
  rw [Model.forall_mem_layout (P := fun l => l.row settings.indentWidth ≠ [] →
    l.Aligned settings.indentWidth) fun hblank => absurd rfl hblank]
  constructor
  · intro hall n hn field hfield hblank
    obtain ⟨l, hl, hinvisible⟩ := (hregular n hn).exists_line_of_beginsBlank hfield hblank
    have hne : l.row settings.indentWidth ≠ [] :=
      Line.row_ne_nil (n.text_ne_empty_of_mem_classLines l hl)
    have hvisible := (haligned hl).mp (hall n hn l hl hne)
    rw [hinvisible] at hvisible
    cases hvisible
  · intro hkeys n hn l hl _
    refine (hlines n hn l hl).resolve_right ?_
    rintro ⟨field, hfield, hblank, -⟩
    exact hkeys n hn field hfield hblank

/-- A sample with keys that are no identifiers, and no value at the empty key. -/
def greeting : Json :=
  .object [("say \"hi\"", .array []), ("", .null), ("nested", .object [("k-v", .bool true)])]

/-- An empty key does no harm to a field that nothing fills. -/
theorem aligned_greeting : ∃ source, generate greeting "Root" ⟨false, 4⟩ = .ok source ∧
    ∀ row ∈ Text.lines source, row ≠ [] → Text.indentation row % 4 = 0 := by
  have hm : infer greeting "Root" ⟨false, 4⟩ =
    .ok (Inference.sampleOutline false "Root" greeting) := rfl
  obtain ⟨source, hrender⟩ := (@Model.exists_render_iff_deepestLevel _ ⟨false, 4⟩
    (Inference.unbroken_of_infer hm)).mpr (by decide)
  have hsource := (generate_eq_ok_iff hm source).mpr hrender
  obtain ⟨m, hinfer, hlines, -, hall⟩ := aligned_unless_key_begins_blank hsource
  rw [hm] at hinfer
  cases hinfer
  have haligned := hall.mpr (by decide +kernel)
  refine ⟨source, hsource, fun row hrow hne => ?_⟩
  rw [hlines] at hrow
  rcases List.mem_append.mp hrow with hrow | hrow
  · obtain ⟨l, hl, rfl⟩ := List.mem_map.mp hrow
    rw [(haligned l hl hne).1]
    exact Nat.mul_mod_left l.level 4
  · exact absurd (List.mem_singleton.mp hrow) hne

/-- A key that begins with a space puts the line that assigns to it one place off its level. -/
theorem blank_key_misaligned : ∃ source,
    generate (.object [(" a", .array [])]) "Root" ⟨false, 4⟩ = .ok source ∧
      ∃ row ∈ Text.lines source, row ≠ [] ∧ Text.indentation row % 4 ≠ 0 := by
  refine ⟨"class Root \x7b\n    var  a:JSONValue\n    init(json:JSONValue) \x7b\n" ++
    "         a = json[\" a\"]\n    \x7d\n\x7d\n", by decide +kernel, ?_⟩
  exact ⟨"         a = json[\" a\"]".toList, by decide +kernel, by decide, by decide⟩

end SampleModels
