import SampleModels.Proofs.Layout.Preorder
import SampleModels.Proofs.References

/-!
# Models that can be printed

The names in an inferred tree are identifiers and no key holds a control character, so no line of
the layout holds one either, wherever a key stands in it as it is.
-/

namespace SampleModels

theorem not_isControl_of_isIdentifierRest {c : Char} (h : isIdentifierRest c) :
    Text.isControl c = false := by
  have hrange := toNat_of_isIdentifierRest h
  simp only [Text.isControl, Bool.or_eq_false_iff, Bool.and_eq_false_iff, decide_eq_false_iff_not]
  omega

namespace Text

/-- No control character is in the text. -/
def Printable (text : String) : Prop := text.toList.any isControl = false

instance (text : String) : Decidable (Printable text) :=
  inferInstanceAs (Decidable (_ = false))

@[simp] theorem printable_append (s t : String) :
    Printable (s ++ t) ↔ Printable s ∧ Printable t := by simp [Printable, List.any_append]

theorem Printable.breaksLine {text : String} (h : Printable text) :
    LineBuffer.breaksLine text = false := by
  unfold Printable at h
  unfold LineBuffer.breaksLine
  rw [List.any_eq_false] at h ⊢
  intro c hc
  have hcontrol := h c hc
  rw [Bool.or_eq_true, beq_iff_eq, beq_iff_eq]
  rintro (rfl | rfl)
  · exact hcontrol rfl
  · exact hcontrol rfl

/-- A character stands in a literal as a letter after a backslash, as its code, or as it is. -/
theorem literalChar_cases (c : Char) :
    (∃ d ∈ ['\\', '"', 'n', 'r', 't'], literalChar c = ['\\', d]) ∨
      (isControl c ∧ literalChar c = codeEscape c) ∨
      (isControl c = false ∧ c ≠ '"' ∧ literalChar c = [c]) := by
  unfold literalChar
  split_ifs with _ hq _ _ _ hc
  · exact .inl ⟨'\\', by decide, rfl⟩
  · exact .inl ⟨'"', by decide, rfl⟩
  · exact .inl ⟨'n', by decide, rfl⟩
  · exact .inl ⟨'r', by decide, rfl⟩
  · exact .inl ⟨'t', by decide, rfl⟩
  · exact .inr (.inl ⟨hc, rfl⟩)
  · exact .inr (.inr ⟨eq_false_of_ne_true hc, hq, rfl⟩)

private theorem all_isIdentifierRest_toDigits : ∀ n < 0xA0,
    (Nat.toDigits 16 n).all isIdentifierRest := by decide +kernel

private theorem toNat_lt_of_isControl {c : Char} (h : isControl c) : c.toNat < 0xA0 := by
  simp only [isControl, Bool.or_eq_true, Bool.and_eq_true, decide_eq_true_eq] at h
  omega

theorem mem_codeEscape {c d : Char} (hc : isControl c) (h : d ∈ codeEscape c) :
    d ∈ ['\\', 'u', '\x7b', '\x7d'] ∨ isIdentifierRest d := by
  simp only [codeEscape, List.mem_cons, List.mem_append, List.not_mem_nil, or_false] at h
  rcases h with rfl | rfl | rfl | h | rfl
  · exact .inl (by decide)
  · exact .inl (by decide)
  · exact .inl (by decide)
  · have hall := all_isIdentifierRest_toDigits _ (toNat_lt_of_isControl hc)
    exact .inr (List.all_eq_true.mp hall d h)
  · exact .inl (by decide)

theorem not_isControl_of_mem_literalChar {c d : Char} (h : d ∈ literalChar c) :
    isControl d = false := by
  rcases literalChar_cases c with ⟨e, he, hl⟩ | ⟨hc, hl⟩ | ⟨hc, -, hl⟩ <;> rw [hl] at h
  · have hall : ['\\', '"', 'n', 'r', 't'].all (!isControl ·) := by decide
    rw [List.all_eq_true] at hall
    rcases List.mem_cons.mp h with rfl | h
    · decide
    · rw [List.mem_singleton.mp h]
      simpa using hall e he
  · have hall : ['\\', 'u', '\x7b', '\x7d'].all (!isControl ·) := by decide
    rw [List.all_eq_true] at hall
    rcases mem_codeEscape hc h with h | h
    · simpa using hall d h
    · exact not_isControl_of_isIdentifierRest h
  · rw [List.mem_singleton.mp h]
    exact hc

/-- What stands in a literal holds no control character, whatever the text. -/
theorem printable_literalBody (text : String) : Printable (literalBody text) := by
  rw [Printable, literalBody, String.toList_ofList, List.any_eq_false]
  intro d hd
  obtain ⟨c, -, hd⟩ := List.mem_flatMap.mp hd
  simp [not_isControl_of_mem_literalChar hd]

end Text

theorem printable_of_isIdentifier {name : String} (h : isIdentifier name) :
    Text.Printable name := by
  rw [Text.Printable, List.any_eq_false]
  intro c hc
  rw [not_isControl_of_isIdentifierRest (isIdentifierRest_of_mem h hc)]
  exact Bool.false_ne_true

theorem printable_lookupText (key : String) : Text.Printable (lookupText key) := by
  simp only [lookupText, Text.printable_append, Text.printable_literalBody]
  decide

theorem ElementType.printable_typeName {element : ElementType}
    (h : ∀ name, element = .nested name → isIdentifier name) :
    Text.Printable element.typeName ∧ Text.Printable element.conversion := by
  cases element with
  | nested name =>
    have hname := printable_of_isIdentifier (h name rfl)
    refine ⟨hname, ?_⟩
    simp only [conversion, Text.printable_append, hname, true_and]
    decide
  | scalar kind => cases kind <;> decide
  | rawJson => decide
  | dynamic => decide

/-- A class that the type mentions is called by an identifier. -/
def FieldType.Regular (type : FieldType) : Prop :=
  ∀ name, type.className? = some name → isIdentifier name

theorem FieldType.Regular.printable_declaration {type : FieldType} (h : type.Regular) :
    Text.Printable type.declaration := by
  cases type with
  | scalar kind => cases kind <;> decide
  | rawJson => decide
  | dynamic => decide
  | nested name => exact printable_of_isIdentifier (h name rfl)
  | list element =>
    have helement : ∀ name, element = .nested name → isIdentifier name := by
      rintro name rfl
      exact h name rfl
    simp only [declaration, Text.printable_append, (element.printable_typeName helement).1]
    decide

theorem Statement.printable_lines {field : Field} {s : Statement} (hs : field.statement? = some s)
    (hkey : Text.Printable field.name) (hname : field.type.Regular) :
    ∀ l ∈ s.lines, Text.Printable l.text := by
  obtain ⟨key, type⟩ := field
  replace hkey : Text.Printable key := hkey
  cases type with
  | dynamic => cases hs
  | scalar kind =>
    cases hs
    have hkind : Text.Printable kind.accessor ∧ Text.Printable kind.defaultLiteral := by
      cases kind <;> decide
    simp only [lines, List.forall_mem_cons, Text.printable_append, hkey, hkind,
      printable_lookupText]
    decide
  | rawJson =>
    cases hs
    simp only [lines, List.forall_mem_cons, Text.printable_append, hkey, printable_lookupText]
    decide
  | nested name =>
    cases hs
    have hn := printable_of_isIdentifier (hname name rfl)
    simp only [lines, List.forall_mem_cons, Text.printable_append, hkey, hn, printable_lookupText]
    decide
  | list element =>
    cases hs
    have helement : ∀ name, element = .nested name → isIdentifier name := by
      rintro name rfl
      exact hname name rfl
    simp only [lines, List.forall_mem_cons, Text.printable_append, hkey, printable_lookupText,
      (element.printable_typeName helement).2]
    decide

namespace Model

/-- What inference guarantees of each model. -/
structure Regular (m : Model) : Prop where
  typeName : isIdentifier m.typeName
  keys : ∀ field ∈ m.fields, Text.Printable field.name
  classNames : ∀ name ∈ m.classNames, isIdentifier name
  initializer : m.initializer = m.fields.filterMap Field.statement? ∨
    m.fields = [] ∧ (m.initializer = [.arrayRoot] ∨ m.initializer = [.scalarRoot])

theorem Regular.type {m : Model} (h : m.Regular) {field : Field} (hf : field ∈ m.fields) :
    field.type.Regular :=
  fun name hn => h.classNames name (List.mem_filterMap.mpr ⟨field, hf, hn⟩)

private theorem Regular.printable_initializer {m : Model} (h : m.Regular) :
    ∀ s ∈ m.initializer, ∀ l ∈ s.lines, Text.Printable l.text := by
  rcases h.initializer with hi | ⟨-, hi | hi⟩ <;> rw [hi]
  · intro s hs
    obtain ⟨field, hf, hs⟩ := List.mem_filterMap.mp hs
    exact Statement.printable_lines hs (h.keys field hf) (h.type hf)
  · decide
  · decide

/-- No line of a class holds a control character. -/
theorem Regular.printable {m : Model} (h : m.Regular) :
    ∀ l ∈ m.classLines, Text.Printable l.text := by
  have hname := printable_of_isIdentifier h.typeName
  have hfields : ∀ field ∈ m.fields, Text.Printable field.line.text := by
    intro field hf
    simp only [Field.line, Text.printable_append, h.keys field hf,
      (h.type hf).printable_declaration]
    decide
  simp only [classLines, initializerLines, List.cons_append, List.forall_mem_cons,
    List.forall_mem_append, List.forall_mem_map, List.forall_mem_flatMap, Text.printable_append,
    hname, and_true]
  refine ⟨by decide, ⟨hfields, by decide, h.printable_initializer, by decide⟩, by decide⟩

end Model

namespace Inference

theorem printable_key_of_mem {inspect : Bool} {rootName : String} {document : Json}
    (hc : Clean rootName (sampleVisits inspect rootName document)) {n : Model}
    (hn : n ∈ (sampleOutline inspect rootName document).preorder) :
    ∀ field ∈ n.fields, Text.Printable field.name := by
  rcases mem_preorder_cases hn with ⟨members, o, rfl, hr, rfl⟩ | ⟨-, note, -, rfl⟩
  · intro field hf
    obtain ⟨⟨key, value⟩, hm, rfl⟩ := List.mem_map.mp hf
    have hv : ⟨o.name, key, o.location.child key,
        (entered? inspect (o.location.child key) value).isSome⟩ ∈
        visits inspect o.name o.location o.members := by
      rw [visits_eq_flatMap]
      exact List.mem_flatMap.mpr ⟨(key, value), hm, List.mem_cons_self⟩
    have hd := hc.defect?_eq_none (visits_subset_of_reaches hr hv)
    exact ((Visit.defect?_eq_none_iff _).mp hd).1
  · exact fun _ hf => nomatch hf

theorem regular_of_infer {document : Json} {rootName : String} {settings : Settings} {m : Model}
    (h : infer document rootName settings = .ok m) : ∀ n ∈ m.preorder, n.Regular := by
  obtain ⟨hi, hc, rfl⟩ := (infer_eq_ok_iff document rootName settings m).mp h
  have hname : ∀ n ∈ (sampleOutline settings.inspectArrays rootName document).preorder,
      isIdentifier n.typeName := by
    intro n hn
    apply isIdentifier_of_mem_claims hi hc
    rw [← typeNames_sampleOutline]
    exact List.mem_map_of_mem hn
  intro n hn
  refine ⟨hname n hn, printable_key_of_mem hc hn, ?_, ?_⟩
  · intro name hm
    rw [← (linked_of_mem_preorder hn).1] at hm
    obtain ⟨c, hchild, rfl⟩ := List.mem_map.mp hm
    exact hname c (Model.mem_preorder_of_mem_children hn hchild)
  · rcases mem_preorder_cases hn with ⟨members, o, -, -, rfl⟩ | ⟨-, note, hnote, rfl⟩
    · exact .inl rfl
    · exact .inr ⟨rfl, by simpa using hnote⟩

theorem unbroken_of_infer {document : Json} {rootName : String} {settings : Settings} {m : Model}
    (h : infer document rootName settings = .ok m) : ∀ l ∈ m.layout, l.Unbroken := by
  rw [Model.forall_mem_layout (P := Line.Unbroken) rfl]
  intro n hn l hl
  exact ((regular_of_infer h n hn).printable l hl).breaksLine

end Inference

end SampleModels
