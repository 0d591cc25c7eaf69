import SampleModels.Proofs.Decoding.Headers
import SampleModels.Proofs.Layout.Width

/-!
# Cutting a source into its classes

A key stands in its lines as it is, but no key that is accepted holds a line break, and all its
lines are inside of a class. So, with a space or more to a level, nothing stands at the left but the
headers of the classes, the braces that close them and the empty lines between them, and a class can
be cut out of the source by its header and the next brace that stands there.
-/

namespace SampleModels

/-- The row begins with a space. -/
def isIndented (row : List Char) : Bool := row.head? == some ' '

/-- The brace that closes a class. -/
def classEnd : List Char := ['\x7d']

/-- The lines of a source from the header of the class with the name to the next brace that closes a
class, without that brace. -/
def classBlock (source name : String) : List (List Char) :=
  ((Text.lines source).dropWhile (· != classHeader name)).takeWhile (· != classEnd)

/-- The rows of a class: its header, rows that are indented by a level or more, and its end. -/
def IsClass (width : Nat) (name : String) (rows : List (List Char)) : Prop :=
  ∃ body, rows = classHeader name :: (body ++ [classEnd]) ∧
    ∀ row ∈ body, List.replicate width ' ' <+: row

theorem isIndented_of_spaces {width : Nat} (hw : 1 ≤ width) {row : List Char}
    (h : List.replicate width ' ' <+: row) : isIndented row := by
  obtain ⟨rest, rfl⟩ := h
  obtain ⟨n, rfl⟩ := Nat.exists_eq_add_of_le' hw
  simp [isIndented, List.replicate_succ]

theorem isIndented_classHeader (name : String) : isIndented (classHeader name) = false := by
  simp [isIndented, classHeader]

theorem filter_intercalate {α : Type} (p : α → Bool) (separator : List α) (xss : List (List α)) :
    (separator.intercalate xss).filter p =
      (separator.filter p).intercalate (xss.map (List.filter p)) := by
  cases xss with
  | nil => simp [List.intercalate]
  | cons xs rest =>
    rw [List.map_cons, Model.intercalate_cons, Model.intercalate_cons, List.filter_append,
      List.filter_flatMap, List.flatMap_map]
    simp

theorem map_intercalate {α β : Type} (f : α → β) (separator : List α) (xss : List (List α)) :
    (separator.intercalate xss).map f = (separator.map f).intercalate (xss.map (List.map f)) := by
  cases xss with
  | nil => simp [List.intercalate]
  | cons xs rest =>
    rw [List.map_cons, Model.intercalate_cons, Model.intercalate_cons, List.map_append,
      List.map_flatMap, List.flatMap_map]
    simp

namespace IsClass

variable {width : Nat} {name : String} {rows : List (List Char)}

/-- Of the rows of a class only the first and the last stand at the left. -/
theorem filter_not_isIndented (h : IsClass width name rows) (hw : 1 ≤ width) :
    rows.filter (fun row => !isIndented row) = [classHeader name, classEnd] := by
  obtain ⟨body, rfl, hbody⟩ := h
  have hnone : body.filter (fun row => !isIndented row) = [] := by
    rw [List.filter_eq_nil_iff]
    intro row hrow
    simp [isIndented_of_spaces hw (hbody row hrow)]
  have hend : isIndented classEnd = false := by decide
  simp [isIndented_classHeader, hnone, hend]

theorem prefix_of_isIndented (h : IsClass width name rows) :
    ∀ row ∈ rows, isIndented row → List.replicate width ' ' <+: row := by
  obtain ⟨body, rfl, hbody⟩ := h
  intro row hrow hindented
  simp only [List.mem_cons, List.mem_append, List.not_mem_nil, or_false] at hrow
  rcases hrow with rfl | hrow | rfl
  · rw [isIndented_classHeader] at hindented
    cases hindented
  · exact hbody row hrow
  · cases hindented

theorem dropWhile_ne_classHeader (h : IsClass width name rows) (rest : List (List Char)) :
    (rows ++ rest).dropWhile (· != classHeader name) = rows ++ rest := by
  obtain ⟨body, rfl, -⟩ := h
  exact List.dropWhile_cons_of_neg (by simp)

/-- The first brace at the left ends the class. -/
theorem takeWhile_ne_classEnd (h : IsClass width name rows) (hw : 1 ≤ width)
    (rest : List (List Char)) :
    (rows ++ rest).takeWhile (· != classEnd) ++ [classEnd] = rows := by
  obtain ⟨body, rfl, hbody⟩ := h
  have hbefore : ∀ row ∈ classHeader name :: body, (row != classEnd) = true := by
    rw [List.forall_mem_cons]
    refine ⟨by simp [classHeader, classEnd], fun row hrow => bne_iff_ne.mpr ?_⟩
    rintro rfl
    have hindented := isIndented_of_spaces hw (hbody classEnd hrow)
    cases hindented
  have hrows : classHeader name :: (body ++ [classEnd]) ++ rest =
      (classHeader name :: body) ++ classEnd :: rest := by simp
  rw [hrows, List.takeWhile_append_of_pos hbefore,
    List.takeWhile_cons_of_neg (by simp)]
  simp

end IsClass

namespace Model

theorem isClass_classRows (width : Nat) (m : Model) :
    IsClass width m.typeName (m.classRows width) := by
  refine ⟨m.bodyLines.map (Line.row width), ?_, ?_⟩
  · have hend : Line.row width ⟨0, "\x7d"⟩ = classEnd := by
      rw [Line.row_of_ne (by decide)]
      simp [classEnd]
    rw [classRows, classLines_eq, List.map_cons, List.map_append, Line.row_classHeader,
      List.map_singleton, hend]
  · rw [List.forall_mem_map]
    intro l hl
    have hne : l.text ≠ "" := m.text_ne_empty_of_mem_classLines l (by simp [classLines_eq, hl])
    have hlevel : width ≤ l.level * width :=
      Nat.le_mul_of_pos_left width (m.level_of_mem_bodyLines l hl).1
    have hspaces : List.replicate width ' ' <+: List.replicate (l.level * width) ' ' :=
      List.prefix_replicate_iff.mpr ⟨by simpa using hlevel, by simp⟩
    rw [Line.row_of_ne hne]
    exact hspaces.trans (List.prefix_append _ _)

theorem lines_eq_intercalate {m : Model} {settings : Settings} {text : String}
    (h : m.render settings = .ok text) :
    Text.lines text =
      [[]].intercalate (m.preorder.map (classRows settings.indentWidth)) ++ [[]] := by
  have hblank : Line.blank.row settings.indentWidth = [] := rfl
  rw [lines_eq_of_render h, layout_eq_intercalate, map_intercalate, List.map_map,
    List.map_singleton, hblank]
  rfl

theorem getLast?_of_render {m : Model} {settings : Settings} {text : String}
    (h : m.render settings = .ok text) : text.toList.getLast? = some '\n' := by
  obtain ⟨-, ht⟩ := render_eq_ok_iff.mp h
  have hne : m.layout ≠ [] := by simp [layout, classLines_eq]
  rw [ht]
  exact Line.getLast?_flatMap_row hne _

/-- Where names are distinct, the header of a class stands at its class alone: the classes before it
have other names, so the search passes over all their rows. -/
theorem classBlock_of_render {m n : Model} {settings : Settings} {text : String}
    (hw : 1 ≤ settings.indentWidth) (h : m.render settings = .ok text) (hd : m.typeNames.Nodup)
    (hn : n ∈ m.preorder) :
    classBlock text n.typeName ++ [classEnd] = n.classRows settings.indentWidth := by
  obtain ⟨before, after, hsplit⟩ := List.append_of_mem hn
  have hbefore : ∀ row ∈ before.flatMap fun k => k.classRows settings.indentWidth ++ [[]],
      (row != classHeader n.typeName) = true := by
    rw [typeNames, hsplit, List.map_append, List.map_cons, List.nodup_append] at hd
    intro row hrow
    obtain ⟨k, hk, hrow⟩ := List.mem_flatMap.mp hrow
    rw [bne_iff_ne]
    rintro rfl
    have hne := hd.2.2 k.typeName (List.mem_map_of_mem hk) n.typeName List.mem_cons_self
    have hcount := k.count_classRows settings.indentWidth n.typeName
    rw [if_neg hne, List.count_eq_zero] at hcount
    rcases List.mem_append.mp hrow with hrow | hrow
    · exact hcount hrow
    · simp [classHeader] at hrow
  have hclass := n.isClass_classRows settings.indentWidth
  rw [classBlock, lines_of_render h, hsplit, List.flatMap_append, List.flatMap_cons,
    List.dropWhile_append_of_pos hbefore, List.append_assoc, hclass.dropWhile_ne_classHeader]
  exact hclass.takeWhile_ne_classEnd hw _

end Model

/-- Whatever the keys are, they forge no line at the left of a source. There, each class has its
header and its end, in preorder and with an empty line between two classes. All other lines are
indented, and each class can be cut out by its header and the next end. -/
theorem keys_stay_inside_classes {sample : Json} {rootName : String} {settings : Settings}
    {source : String} (hw : 1 ≤ settings.indentWidth)
    (h : generate sample rootName settings = .ok source) :
    ∃ m, infer sample rootName settings = .ok m ∧ source.toList.getLast? = some '\n' ∧
      ∃ rows, Text.lines source = rows ++ [[]] ∧
        rows = [[]].intercalate (m.preorder.map (Model.classRows settings.indentWidth)) ∧
        (rows.filter fun row => !isIndented row) =
          [[]].intercalate (m.typeNames.map fun name => [classHeader name, classEnd]) ∧
        (∀ row ∈ rows, isIndented row → List.replicate settings.indentWidth ' ' <+: row) ∧
        ∀ n ∈ m.preorder,
          IsClass settings.indentWidth n.typeName (n.classRows settings.indentWidth) ∧
          classBlock source n.typeName ++ [classEnd] = n.classRows settings.indentWidth := by
  obtain ⟨m, hm, hrender⟩ := exists_model_of_generate h
  have hclass (n : Model) := n.isClass_classRows settings.indentWidth
  have hd : m.typeNames.Nodup := by
    obtain ⟨-, hc, rfl⟩ := (Inference.infer_eq_ok_iff sample rootName settings m).mp hm
    exact Inference.nodup_typeNames hc
  refine ⟨m, hm, Model.getLast?_of_render hrender, _, Model.lines_eq_intercalate hrender, rfl,
    ?_, ?_, fun n hn => ⟨hclass n, Model.classBlock_of_render hw hrender hd hn⟩⟩
  · have hfilter (n : Model) : (n.classRows settings.indentWidth).filter (!isIndented ·) = _ :=
      (hclass n).filter_not_isIndented hw
    rw [filter_intercalate, List.map_map, Model.typeNames, List.map_map]
    simp only [Function.comp_def, hfilter]
    rfl
  · intro row hrow hindented
    have hline : row ∈ Text.lines source := by
      rw [Model.lines_eq_intercalate hrender]
      exact List.mem_append_left _ hrow
    rw [Model.lines_of_render hrender] at hline
    obtain ⟨n, -, hline⟩ := List.mem_flatMap.mp hline
    rcases List.mem_append.mp hline with hline | hline
    · exact (hclass n).prefix_of_isIndented row hline hindented
    · rw [List.mem_singleton.mp hline] at hindented
      cases hindented

/-- A sample with keys that look like the lines around a class. -/
def bracedSample : Json :=
  .object [("class Root \x7b", .array []), ("a", .object [("\x7d", .array [])])]

/-- The class is cut out whole, although its key is a brace. -/
theorem classBlock_bracedSample :
    ∃ source, generate bracedSample "Root" ⟨false, 1⟩ = .ok source ∧
      classBlock source "RootA" = ["class RootA \x7b", " var \x7d:JSONValue",
        " init(json:JSONValue) \x7b", "  \x7d = json[\"\x7d\"]", " \x7d"].map String.toList := by
  have hm : infer bracedSample "Root" ⟨false, 1⟩ =
    .ok (Inference.sampleOutline false "Root" bracedSample) := rfl
  obtain ⟨source, hrender⟩ := (@Model.exists_render_iff_deepestLevel _ ⟨false, 1⟩
    (Inference.unbroken_of_infer hm)).mpr (by decide)
  have hsource := (generate_eq_ok_iff hm source).mpr hrender
  obtain ⟨m, hinfer, -, -, -, -, -, -, hcut⟩ := keys_stay_inside_classes (by decide) hsource
  rw [hm] at hinfer
  cases hinfer
  obtain ⟨-, hblock⟩ := hcut ⟨"RootA", ⟨["a"]⟩, [⟨"\x7d", .rawJson⟩], [.passThrough "\x7d"], []⟩
    (List.mem_cons_of_mem _ List.mem_cons_self)
  refine ⟨source, hsource, List.append_cancel_right (hblock.trans ?_)⟩
  decide +kernel

end SampleModels
