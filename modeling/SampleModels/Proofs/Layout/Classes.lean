import SampleModels.Proofs.Layout.Lines
import SampleModels.Source

/-!
# The layout of a model

The lines of the class of each model, and those of a whole tree: the classes in preorder, with an
empty line between two of them. Writing a tree writes its layout, although the models below the
root are written in buffers of their own.
-/

namespace SampleModels

open LineBuffer

namespace Statement

/-- The lines of the statement inside an initializer. -/
def lines : Statement → List Line
  | .scalar key kind =>
    [⟨2, "if let value = " ++ lookupText key ++ "." ++ kind.accessor ++ " \x7b"⟩,
      ⟨3, key ++ " = value"⟩, ⟨2, "\x7d else \x7b"⟩, ⟨3, key ++ " = " ++ kind.defaultLiteral⟩,
      ⟨2, "\x7d"⟩]
  | .passThrough key => [⟨2, key ++ " = " ++ lookupText key⟩]
  | .nested key typeName => [⟨2, key ++ " = " ++ typeName ++ "(json:" ++ lookupText key ++ ")"⟩]
  | .list key element =>
    [⟨2, key ++ " = []"⟩, ⟨2, "if let xs = " ++ lookupText key ++ ".array \x7b"⟩,
      ⟨3, "for v in xs \x7b"⟩, ⟨4, key ++ ".append(" ++ element.conversion ++ ")"⟩, ⟨3, "\x7d"⟩,
      ⟨2, "\x7d"⟩]
  | .arrayRoot => [⟨2, "// sample root is an array; no fields generated"⟩]
  | .scalarRoot => [⟨2, "// sample root is not an object; no fields generated"⟩]

private theorem writes_scalar (key : String) (kind : Scalar) :
    Writes (writeScalar key kind) 2 (lines (.scalar key kind)) 2 :=
  (Writes.openBlock (by decide) _).bind <| (Writes.line _).bind <| (Writes.closeBlock _).bind <|
    (Writes.indent (by decide)).bind <| (Writes.line _).bind <| Writes.closeBlock _

private theorem writes_list (key : String) (element : ElementType) :
    Writes (writeList key element) 2 (lines (.list key element)) 2 :=
  (Writes.line _).bind <| (Writes.openBlock (by decide) _).bind <|
    (Writes.openBlock (by decide) _).bind <| (Writes.line _).bind <| (Writes.closeBlock _).bind <|
      Writes.closeBlock _

theorem writes (s : Statement) : Writes (write · s) 2 s.lines 2 := by
  cases s with
  | scalar key kind => exact writes_scalar key kind
  | list key element => exact writes_list key element
  | passThrough key => exact Writes.line _
  | nested key typeName => exact Writes.line _
  | arrayRoot => exact Writes.line _
  | scalarRoot => exact Writes.line _

theorem text_ne_empty_of_mem_lines (s : Statement) : ∀ l ∈ s.lines, l.text ≠ "" := by
  cases s <;> simp [lines]

theorem level_of_mem_lines (s : Statement) : ∀ l ∈ s.lines, 1 ≤ l.level ∧ l.level ≤ 4 := by
  cases s <;> simp [lines]

end Statement

def Field.line (field : Field) : Line :=
  ⟨1, "var " ++ field.name ++ ":" ++ field.type.declaration⟩

theorem Field.writes (field : Field) : Writes (Field.write · field) 1 [field.line] 1 :=
  Writes.line _

namespace Model

def initializerLines (statements : List Statement) : List Line :=
  ⟨1, "init(json:JSONValue) \x7b"⟩ :: statements.flatMap Statement.lines ++ [⟨1, "\x7d"⟩]

/-- The lines of the class of a model, without those of the models below it. -/
def classLines (m : Model) : List Line :=
  ⟨0, "class " ++ m.typeName ++ " \x7b"⟩ :: m.fields.map Field.line ++
    initializerLines m.initializer ++ [⟨0, "\x7d"⟩]

/-- The lines between the header of a class and the brace that closes it. -/
def bodyLines (m : Model) : List Line := m.fields.map Field.line ++ initializerLines m.initializer

theorem classLines_eq (m : Model) :
    m.classLines =
      ⟨0, "class " ++ m.typeName ++ " \x7b"⟩ :: (m.bodyLines ++ [⟨0, "\x7d"⟩]) := by
  simp [classLines, bodyLines]

theorem level_of_mem_bodyLines (m : Model) : ∀ l ∈ m.bodyLines, 1 ≤ l.level ∧ l.level ≤ 4 := by
  simp only [bodyLines, initializerLines, List.cons_append, List.forall_mem_append,
    List.forall_mem_cons, List.forall_mem_map, List.forall_mem_flatMap]
  refine ⟨fun field _ => ?_, by decide, fun s _ => s.level_of_mem_lines, by decide, ?_⟩
  · exact (by decide : 1 ≤ 1 ∧ 1 ≤ 4)
  · exact List.forall_mem_nil _

theorem text_ne_empty_of_mem_classLines (m : Model) : ∀ l ∈ m.classLines, l.text ≠ "" := by
  simp only [classLines, initializerLines, List.cons_append, List.forall_mem_cons,
    List.forall_mem_append, List.forall_mem_map, List.forall_mem_flatMap]
  refine ⟨by simp, ⟨fun _ _ => by simp [Field.line], by simp, ?_, by simp⟩, by simp⟩
  exact fun s _ => s.text_ne_empty_of_mem_lines

/-- The lines of classes that follow others, each after an empty line. -/
def followingLines (models : List Model) : List Line :=
  models.flatMap fun m => .blank :: m.classLines

/-- The lines of the classes of a model and those below it. -/
def layout (m : Model) : List Line := m.classLines ++ followingLines (preorderAll m.children)

theorem initializerBlock_eq (statements : List Statement) :
    initializerBlock 1 statements = (atLevel 1).extend (initializerLines statements) 1 :=
  ((Writes.openBlock (by decide) _).bind
    ((Writes.foldlM Statement.writes statements).bind (Writes.closeBlock _))) (atLevel 1) rfl

theorem writes_class (m : Model) : Writes m.writeClass 0 m.classLines 0 := by
  have hend : Writes (fun b => do
      let initializer ← initializerBlock b.level m.initializer
      (b.absorb initializer).closeBlock "\x7d") 1
      (initializerLines m.initializer ++ [⟨0, "\x7d"⟩]) 0 := by
    intro b hb
    simp only [hb, initializerBlock_eq]
    exact Writes.absorb rfl (Writes.closeBlock "\x7d") b hb
  have hlines : m.classLines = [⟨0, "class " ++ m.typeName ++ " \x7b"⟩] ++
      (m.fields.flatMap (fun field => [field.line]) ++
        (initializerLines m.initializer ++ [⟨0, "\x7d"⟩])) := by
    simp [classLines, ← List.map_eq_flatMap]
  rw [hlines]
  exact (Writes.openBlock (by decide) _).bind ((Writes.foldlM Field.writes m.fields).bind hend)

mutual

theorem writes : ∀ m : Model, Writes m.write 0 m.layout 0
  | ⟨name, location, fields, initializer, children⟩ =>
    (writes_class ⟨name, location, fields, initializer, children⟩).bind (writesAll children)

theorem writesAll : ∀ ms : List Model,
    Writes (writeAll ms) 0 (followingLines (preorderAll ms)) 0
  | [] => fun b hb => (hb ▸ b.extend_nil).symm
  | m :: rest => by
    intro b hb
    have hlines : followingLines (preorderAll (m :: rest)) =
        .blank :: (m.layout ++ followingLines (preorderAll rest)) := by
      simp [followingLines, preorderAll, preorder_eq, layout]
    rw [writeAll, writes m .empty rfl, hlines, ← extend_blank]
    exact Writes.absorb rfl (writesAll rest) b.blank hb

end

theorem render_of_unbroken {m : Model} (h : ∀ l ∈ m.layout, l.Unbroken) (settings : Settings) :
    m.render settings = LineBuffer.render ⟨m.layout.toArray, 0, settings.indentWidth⟩ := by
  have hw : (LineBuffer.ofWidth settings.indentWidth).extend m.layout 0 =
      .ok ⟨m.layout.toArray, 0, settings.indentWidth⟩ :=
    extend_eq_ok_iff.mpr ⟨h, by simp [LineBuffer.ofWidth]⟩
  rw [render, writes m _ rfl, hw]
  rfl

theorem unbroken_of_render {m : Model} {settings : Settings} {text : String}
    (h : m.render settings = .ok text) : ∀ l ∈ m.layout, l.Unbroken := by
  rw [render, writes m _ rfl] at h
  cases hw : (LineBuffer.ofWidth settings.indentWidth).extend m.layout 0 with
  | error breach =>
    rw [hw] at h
    cases h
  | ok b => exact (extend_eq_ok_iff.mp hw).1

/-- A tree renders when no line of its layout holds a line break or is too wide. -/
theorem render_eq_ok_iff {m : Model} {settings : Settings} {text : String} :
    m.render settings = .ok text ↔
      (∀ l ∈ m.layout, l.Unbroken ∧ l.Fits settings.indentWidth) ∧
        text.toList = m.layout.flatMap fun l => l.row settings.indentWidth ++ ['\n'] := by
  constructor
  · intro h
    have hu := unbroken_of_render h
    rw [render_of_unbroken hu] at h
    obtain ⟨hf, ht⟩ := LineBuffer.render_eq_ok_iff.mp h
    exact ⟨fun l hl => ⟨hu l hl, hf l hl⟩, ht⟩
  · rintro ⟨hl, ht⟩
    rw [render_of_unbroken fun l hm => (hl l hm).1]
    exact LineBuffer.render_eq_ok_iff.mpr ⟨fun l hm => (hl l hm).2, ht⟩

theorem exists_render_iff_fits {m : Model} {settings : Settings}
    (hu : ∀ l ∈ m.layout, l.Unbroken) :
    (∃ text, m.render settings = .ok text) ↔ ∀ l ∈ m.layout, l.Fits settings.indentWidth := by
  constructor
  · rintro ⟨text, h⟩ l hl
    exact ((render_eq_ok_iff.mp h).1 l hl).2
  · intro h
    exact ⟨_, render_eq_ok_iff.mpr ⟨fun l hl => ⟨hu l hl, h l hl⟩, String.toList_ofList⟩⟩

end Model

end SampleModels
