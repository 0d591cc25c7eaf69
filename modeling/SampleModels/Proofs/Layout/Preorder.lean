import SampleModels.Proofs.Layout.Classes

/-!
# The source of a tree, class by class

The source of a tree is made of the sources of its models, each taken without those below it, in
preorder and with an empty line between two of them. Where one of them has no source, neither has
the tree.
-/

namespace SampleModels

namespace Model

/-- The model without those below it. -/
def alone (m : Model) : Model := { m with children := [] }

theorem layout_alone (m : Model) : m.alone.layout = m.classLines :=
  List.append_nil m.classLines

theorem forall_mem_layout {m : Model} {P : Line → Prop} (hblank : P .blank) :
    (∀ l ∈ m.layout, P l) ↔ ∀ n ∈ m.preorder, ∀ l ∈ n.classLines, P l := by
  simp only [layout, followingLines, preorder_eq m, List.forall_mem_append, List.forall_mem_flatMap,
    List.forall_mem_cons, hblank, true_and]

/-- The text of the class of a model. -/
def classText (width : Nat) (m : Model) : String :=
  String.ofList (m.classLines.flatMap fun l => l.row width ++ ['\n'])

/-- The class of the model can be written out. -/
def HasClassText (width : Nat) (m : Model) : Prop :=
  ∀ l ∈ m.classLines, l.Unbroken ∧ l.Fits width

theorem render_alone_eq_ok_iff (settings : Settings) (m : Model) (text : String) :
    m.alone.render settings = .ok text ↔
      m.HasClassText settings.indentWidth ∧ text = m.classText settings.indentWidth := by
  rw [render_eq_ok_iff, layout_alone, classText, ← String.toList_inj, String.toList_ofList,
    HasClassText]

theorem intercalate_cons {α : Type} (separator xs : List α) (xss : List (List α)) :
    separator.intercalate (xs :: xss) = xs ++ xss.flatMap (separator ++ ·) := by
  induction xss generalizing xs with
  | nil => simp
  | cons ys rest ih => simp [List.intercalate_cons_cons, ih]

/-- A layout is made of the lines of its classes in preorder, with an empty line between two. -/
theorem layout_eq_intercalate (m : Model) :
    m.layout = [Line.blank].intercalate (m.preorder.map classLines) := by
  rw [layout, preorder_eq, List.map_cons, intercalate_cons, List.flatMap_map]
  rfl

theorem toList_intercalate_cons (separator text : String) (texts : List String) :
    (separator.intercalate (text :: texts)).toList =
      text.toList ++ texts.flatMap fun t => separator.toList ++ t.toList := by
  induction texts generalizing text with
  | nil => simp
  | cons t rest ih => simp [String.intercalate_cons_cons, ih]

theorem rows_layout (width : Nat) (m : Model) :
    (m.layout.flatMap fun l => l.row width ++ ['\n']) =
      ("\n".intercalate (m.preorder.map (classText width))).toList := by
  have hblank : Line.blank.row width = [] := rfl
  rw [preorder_eq, List.map_cons, toList_intercalate_cons]
  simp [layout, followingLines, classText, List.flatMap_assoc, List.flatMap_map, hblank]

theorem render_eq_ok_iff_classText {m : Model} {settings : Settings} {text : String} :
    m.render settings = .ok text ↔
      (∀ n ∈ m.preorder, n.HasClassText settings.indentWidth) ∧
        text = "\n".intercalate (m.preorder.map (classText settings.indentWidth)) := by
  have hblank : Line.blank.Unbroken ∧ Line.blank.Fits settings.indentWidth := ⟨rfl, .inl rfl⟩
  rw [render_eq_ok_iff, rows_layout, forall_mem_layout hblank, String.toList_inj]
  rfl

private theorem exists_error_iff {ε α : Type} {x : Except ε α} {p : Prop} {a : α}
    (h : ∀ b, x = .ok b ↔ p ∧ b = a) : (∃ e, x = .error e) ↔ ¬ p := by
  cases x with
  | error e =>
    have hp : ¬ p := fun hp => nomatch (h a).mpr ⟨hp, rfl⟩
    simp [hp]
  | ok b => simp [((h b).mp rfl).1]

/-- A tree has no source when one of its classes has none. Otherwise its source is that of its
classes in preorder, joined by empty lines. -/
theorem source_joins_classes_in_preorder (m : Model) (settings : Settings) :
    ((∃ breach, m.render settings = .error breach) ↔
      ∃ n ∈ m.preorder, ∃ breach, n.alone.render settings = .error breach) ∧
    ∀ text, m.render settings = .ok text ↔
      ∃ classes, m.preorder.mapM (fun n => n.alone.render settings) = .ok classes ∧
        text = "\n".intercalate classes := by
  constructor
  · rw [exists_error_iff fun text => render_eq_ok_iff_classText]
    simp only [exists_error_iff (render_alone_eq_ok_iff settings _), Classical.not_forall,
      exists_prop]
  · intro text
    simp only [render_eq_ok_iff_classText, mapM_eq_ok_iff (render_alone_eq_ok_iff settings),
      and_assoc, exists_and_left, exists_eq_left]

end Model

end SampleModels
