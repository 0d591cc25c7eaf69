import SampleModels.Proofs.Decoding.Rows
import SampleModels.Proofs.PointerText

/-!
# Class headers in the source

Cutting a source at its line breaks gives the rows of its layout back. Of the lines of a class only
the first reads like the header of a class, whatever the keys are, so a name heads as many classes
as there are models called by it.
-/

namespace SampleModels

namespace Text

/-- The lines of a text. One that ends with a line break has an empty line at the end. -/
def lines (text : String) : List (List Char) := text.toList.splitOn '\n'

theorem splitOn_flatMap_concat {a : Char} {rows : List (List Char)} (h : ∀ row ∈ rows, a ∉ row) :
    (rows.flatMap (· ++ [a])).splitOn a = rows ++ [[]] := by
  induction rows with
  | nil => rfl
  | cons row rows ih =>
    rw [List.forall_mem_cons] at h
    rw [List.flatMap_cons, List.append_assoc, List.singleton_append,
      List.splitOn_append_cons_self_of_not_mem h.1, ih h.2, List.cons_append]

end Text

/-- The header of the class with the name. -/
def classHeader (name : String) : List Char := ("class " ++ name ++ " \x7b").toList

/-- How many classes with the name a source declares. -/
def classesNamed (source name : String) : Nat := (Text.lines source).count (classHeader name)

namespace Line

/-- The text of the line begins and ends like the header of a class. -/
def LikeHeader (l : Line) : Prop :=
  l.text.toList.head? = some 'c' ∧ l.text.toList.getLast? = some '\x7b'

instance (l : Line) : Decidable l.LikeHeader := inferInstanceAs (Decidable (_ ∧ _))

theorem row_ne_classHeader {width : Nat} {l : Line} (hne : l.text ≠ "") (h : ¬ l.LikeHeader)
    (name : String) : l.row width ≠ classHeader name := by
  intro he
  refine h ⟨?_, ?_⟩
  · have hhead : (l.row width).head? = some 'c' := by
      rw [he]
      simp [classHeader]
    rw [row_of_ne hne] at hhead
    cases hn : l.level * width with
    | zero => simpa [hn] using hhead
    | succ n => simp [hn, List.replicate_succ] at hhead
  · rw [← getLast?_row hne, he]
    simp [classHeader, List.getLast?_cons, List.getLast?_append]

end Line

theorem Line.row_classHeader (width : Nat) (name : String) :
    Line.row width ⟨0, "class " ++ name ++ " \x7b"⟩ = classHeader name := by
  rw [Line.row_of_ne (by simp)]
  simp [classHeader]

theorem Statement.not_likeHeader (s : Statement) : ∀ l ∈ s.lines, ¬ l.LikeHeader := by
  cases s with
  | scalar key kind =>
    cases kind <;>
      simp [lines, Line.LikeHeader, Scalar.defaultLiteral, List.getLast?_cons, List.getLast?_append]
  | passThrough key =>
    simp [lines, Line.LikeHeader, lookupText, List.getLast?_cons, List.getLast?_append]
  | nested key name => simp [lines, Line.LikeHeader, List.getLast?_cons, List.getLast?_append]
  | list key element => simp [lines, Line.LikeHeader, List.getLast?_cons, List.getLast?_append]
  | arrayRoot => decide
  | scalarRoot => decide

namespace Model

/-- Cutting a source at its line breaks gives the rows of the layout, each with a break after it. -/
theorem lines_eq_of_render {m : Model} {settings : Settings} {text : String}
    (h : m.render settings = .ok text) :
    Text.lines text = m.layout.map (Line.row settings.indentWidth) ++ [[]] := by
  obtain ⟨hl, ht⟩ := render_eq_ok_iff.mp h
  have hrows : ∀ row ∈ m.layout.map (Line.row settings.indentWidth), '\n' ∉ row :=
    List.forall_mem_map.mpr fun l hm => (hl l hm).1.newline_notMem_row
  rw [Text.lines, ht, ← Text.splitOn_flatMap_concat hrows, List.flatMap_map]

theorem lines_of_render {m : Model} {settings : Settings} {text : String}
    (h : m.render settings = .ok text) :
    Text.lines text =
      m.preorder.flatMap fun n => n.classRows settings.indentWidth ++ [[]] := by
  rw [lines_eq_of_render h, map_row_layout]

theorem count_classRows (width : Nat) (m : Model) (name : String) :
    (m.classRows width).count (classHeader name) = if m.typeName = name then 1 else 0 := by
  have hbody : ∀ l ∈ m.bodyLines ++ [(⟨0, "\x7d"⟩ : Line)], l.text ≠ "" ∧ ¬ l.LikeHeader := by
    simp only [bodyLines, initializerLines, List.forall_mem_append, List.forall_mem_cons,
      List.forall_mem_map, List.forall_mem_flatMap]
    refine ⟨⟨fun field _ => ?_, ⟨by decide, fun s _ l hl => ?_⟩, by decide⟩, by decide⟩
    · simp [Field.line, Line.LikeHeader]
    · exact ⟨s.text_ne_empty_of_mem_lines l hl, s.not_likeHeader l hl⟩
  have hrest : classHeader name ∉
      (m.bodyLines ++ [(⟨0, "\x7d"⟩ : Line)]).map (Line.row width) := by
    intro hm
    obtain ⟨l, hl, he⟩ := List.mem_map.mp hm
    exact Line.row_ne_classHeader (hbody l hl).1 (hbody l hl).2 name he
  have hinj : classHeader m.typeName = classHeader name ↔ m.typeName = name := by
    rw [classHeader, classHeader, String.toList_inj, String.append_left_inj,
      String.append_right_inj]
  rw [classRows, classLines_eq, List.map_cons, Line.row_classHeader, List.count_cons,
    List.count_eq_zero.mpr hrest]
  simp [hinj]

/-- A source declares as many classes with a name as its tree has models with it. -/
theorem classesNamed_of_render {m : Model} {settings : Settings} {text : String}
    (h : m.render settings = .ok text) (name : String) :
    classesNamed text name = m.typeNames.count name := by
  have hblank : ([] : List Char) ≠ classHeader name := by simp [classHeader]
  rw [classesNamed, lines_of_render h, typeNames]
  induction m.preorder with
  | nil => rfl
  | cons n ns ih =>
    rw [List.flatMap_cons, List.count_append, List.count_append, count_classRows, ih]
    simp [List.count_cons, hblank, Nat.add_comm]

theorem row_mem_lines_of_classLines {m n : Model} {settings : Settings} {text : String}
    (h : m.render settings = .ok text) (hn : n ∈ m.preorder) {l : Line} (hl : l ∈ n.classLines) :
    l.row settings.indentWidth ∈ Text.lines text := by
  rw [lines_of_render h, List.mem_flatMap]
  exact ⟨n, hn, List.mem_append_left _ (List.mem_map_of_mem hl)⟩

theorem row_mem_lines_of_render {m n : Model} {settings : Settings} {text : String}
    (h : m.render settings = .ok text) (hn : n ∈ m.preorder) {field : Field}
    (hf : field ∈ n.fields) : field.line.row settings.indentWidth ∈ Text.lines text :=
  row_mem_lines_of_classLines h hn (by simp [classLines, List.mem_map_of_mem hf])

end Model

end SampleModels
