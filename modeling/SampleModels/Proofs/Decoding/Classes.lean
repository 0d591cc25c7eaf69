import SampleModels.Proofs.Decoding.Statements

/-!
# Reading classes back

The line of a field tells its key and how its type is declared. A class can have the name of another
type, and then the statements tell the two types apart. Fields are read one after the other, each
with the rows of its statement: rows that build a nested model belong to the field of their key, and
otherwise the declaration leaves nothing open but how the elements of a list are taken over.
-/

namespace SampleModels

namespace ElementType

/-- The types that no class is declared for. -/
def builtIn : List ElementType :=
  [.scalar .string, .scalar .number, .scalar .boolean, .rawJson, .dynamic]

theorem nested_or_builtIn (element : ElementType) :
    (∃ name, element = .nested name) ∨ element ∈ builtIn := by
  cases element with
  | nested name => exact .inl ⟨name, rfl⟩
  | scalar kind => exact .inr (by cases kind <;> decide)
  | rawJson => exact .inr (by decide)
  | dynamic => exact .inr (by decide)

theorem eq_of_mem_builtIn : ∀ element ∈ builtIn, ∀ other ∈ builtIn,
    element.typeName = other.typeName → element = other := by decide

theorem isIdentifier_of_mem_builtIn : ∀ element ∈ builtIn, isIdentifier element.typeName := by
  decide

private theorem conversion_builtIn : ∀ element ∈ builtIn, element.conversion = "v" := by decide

private theorem conversion_nested_ne {name : String} {element : ElementType}
    (h : element ∈ builtIn) : (nested name).conversion ≠ element.conversion := by
  intro he
  rw [conversion_builtIn element h] at he
  have hlength := congrArg String.length he
  rw [conversion, String.length_append] at hlength
  exact absurd hlength (Nat.ne_of_gt (Nat.lt_add_left _ (by decide)))

/-- The name of a type and how its elements are taken over tell the type. -/
theorem eq_of_conversion_eq {element other : ElementType} (h : element.typeName = other.typeName)
    (hc : element.conversion = other.conversion) : element = other := by
  rcases element.nested_or_builtIn with ⟨name, rfl⟩ | hb
  · rcases other.nested_or_builtIn with ⟨n, rfl⟩ | hb'
    · exact congrArg nested h
    · exact absurd hc (conversion_nested_ne hb')
  · rcases other.nested_or_builtIn with ⟨n, rfl⟩ | hb'
    · exact absurd hc.symm (conversion_nested_ne hb)
    · exact eq_of_mem_builtIn _ hb _ hb' h

theorem notMem_typeName {element : ElementType}
    (h : ∀ name, element = .nested name → isIdentifier name) {c : Char}
    (hc : isIdentifierRest c = false) : c ∉ element.typeName.toList := by
  rcases element.nested_or_builtIn with ⟨name, rfl⟩ | hb
  · exact notMem_of_isIdentifier (h name rfl) hc
  · exact notMem_of_isIdentifier (isIdentifier_of_mem_builtIn element hb) hc

end ElementType

namespace FieldType

/-- The type of a field that holds a single value. -/
def single : ElementType → FieldType
  | .scalar kind => .scalar kind
  | .nested name => .nested name
  | .rawJson => .rawJson
  | .dynamic => .dynamic

theorem single_or_list (type : FieldType) :
    (∃ element, type = single element) ∨ ∃ element, type = .list element := by
  cases type with
  | scalar kind => exact .inl ⟨.scalar kind, rfl⟩
  | rawJson => exact .inl ⟨.rawJson, rfl⟩
  | dynamic => exact .inl ⟨.dynamic, rfl⟩
  | nested name => exact .inl ⟨.nested name, rfl⟩
  | list element => exact .inr ⟨element, rfl⟩

theorem declaration_single (element : ElementType) :
    (single element).declaration = element.typeName := by
  cases element <;> rfl

theorem Regular.colon_notMem_declaration {type : FieldType} (h : type.Regular) :
    ':' ∉ type.declaration.toList := by
  rcases type.single_or_list with ⟨element, rfl⟩ | ⟨element, rfl⟩
  · rw [declaration_single]
    apply ElementType.notMem_typeName _ (by decide)
    rintro name rfl
    exact h name rfl
  · have hn : ':' ∉ element.typeName.toList := by
      apply ElementType.notMem_typeName _ (by decide)
      rintro name rfl
      exact h name rfl
    simpa [declaration] using hn

private theorem declaration_single_ne_list {element other : ElementType}
    (h : element ∈ ElementType.builtIn) :
    (single element).declaration ≠ (list other).declaration := by
  intro he
  have hbracket : '[' ∉ (single element).declaration.toList := by
    rw [declaration_single]
    exact notMem_of_isIdentifier (ElementType.isIdentifier_of_mem_builtIn element h) (by decide)
  rw [he] at hbracket
  simp [declaration] at hbracket

/-- Unless it is a class, a declared type leaves nothing open but the elements of a list. -/
theorem eq_or_list {type other : FieldType} (h : type.declaration = other.declaration)
    (hn : ∀ name, type ≠ .nested name) (hn' : ∀ name, other ≠ .nested name) :
    type = other ∨ ∃ e e', type = .list e ∧ other = .list e' ∧ e.typeName = e'.typeName := by
  have hbuiltIn {e : ElementType} (he : ∀ name, single e ≠ .nested name) :
      e ∈ ElementType.builtIn := by
    apply e.nested_or_builtIn.resolve_left
    rintro ⟨name, rfl⟩
    exact he name rfl
  rcases type.single_or_list with ⟨e, rfl⟩ | ⟨e, rfl⟩
  · rcases other.single_or_list with ⟨e', rfl⟩ | ⟨e', rfl⟩
    · rw [declaration_single, declaration_single] at h
      have heq := ElementType.eq_of_mem_builtIn e (hbuiltIn hn) e' (hbuiltIn hn') h
      exact .inl (congrArg single heq)
    · exact absurd h (declaration_single_ne_list (hbuiltIn hn))
  · rcases other.single_or_list with ⟨e', rfl⟩ | ⟨e', rfl⟩
    · exact absurd h.symm (declaration_single_ne_list (hbuiltIn hn'))
    · have ht : e.typeName = e'.typeName := by simpa [declaration] using h
      exact .inr ⟨e, e', rfl, rfl, ht⟩

end FieldType

namespace Field

open Statement

/-- The last colon of its line parts the key of a field from its type. -/
theorem eq_of_row_eq {width : Nat} {field other : Field} (hr : field.type.Regular)
    (hr' : other.type.Regular) (h : field.line.row width = other.line.row width) :
    field.name = other.name ∧ field.type.declaration = other.type.declaration := by
  have htext := congrArg String.toList (Line.row_injective h)
  obtain ⟨hkey, hd⟩ := append_cons_inj_of_notMem_right (a := ':')
    hr.colon_notMem_declaration hr'.colon_notMem_declaration
    (show ("var ".toList ++ field.name.toList) ++ ':' :: field.type.declaration.toList =
      ("var ".toList ++ other.name.toList) ++ ':' :: other.type.declaration.toList by
        simpa using htext)
  exact ⟨String.toList_inj.mp (List.append_cancel_left hkey), String.toList_inj.mp hd⟩

variable {width : Nat} {field other : Field} {fields others : List Field}

private theorem mem_of_bodyRows {key name : String} {more : List (List Char)}
    (hr : ∀ f ∈ fields, f.type.Regular) (hn : isIdentifier name)
    (h : bodyRows width (fields.filterMap statement?) =
      Line.row width ⟨2, nestedText key name⟩ :: more) :
    ⟨key, .nested name⟩ ∈ fields := by
  have hs : ∀ s ∈ fields.filterMap statement?, ∀ n, s.className? = some n → isIdentifier n := by
    intro s hs n hc
    obtain ⟨f, hf, hs⟩ := List.mem_filterMap.mp hs
    apply hr f hf n
    rw [← f.className?_statement?, hs]
    exact hc
  obtain ⟨⟨k, type⟩, hf, hs⟩ := List.mem_filterMap.mp (Statement.mem_of_bodyRows hn hs h)
  cases type <;> cases hs
  exact hf

/-- A field that builds a nested model is read back by its key, which no later field has. -/
private theorem eq_of_nested {name : String} (hf : field.type = .nested name)
    (hr : field.type.Regular) (hr' : ∀ f ∈ other :: others, f.type.Regular)
    (hname : field.name = other.name) (hk : other.name ∉ others.map Field.name)
    (h : bodyRows width ((field :: fields).filterMap statement?) =
      bodyRows width ((other :: others).filterMap statement?)) : field = other := by
  obtain ⟨key, type⟩ := field
  cases hf
  have hmem := mem_of_bodyRows hr' (hr name rfl) h.symm
  rcases List.mem_cons.mp hmem with heq | hlater
  · exact heq
  · exact absurd (hname ▸ List.mem_map_of_mem hlater) hk

/-- Bodies with the same rows have the same first field. A nested model can stand on either side;
its row then begins the rows of both. -/
private theorem eq_of_bodyRows_cons (hr : ∀ f ∈ field :: fields, f.type.Regular)
    (hr' : ∀ f ∈ other :: others, f.type.Regular)
    (hrow : field.line.row width = other.line.row width) (hk : field.name ∉ fields.map Field.name)
    (hk' : other.name ∉ others.map Field.name)
    (h : bodyRows width ((field :: fields).filterMap statement?) =
      bodyRows width ((other :: others).filterMap statement?)) : field = other := by
  have hfield := hr field List.mem_cons_self
  have hother := hr' other List.mem_cons_self
  obtain ⟨hname, hd⟩ := eq_of_row_eq hfield hother hrow
  by_cases hn : ∃ name, field.type = .nested name
  · obtain ⟨name, hf⟩ := hn
    exact eq_of_nested hf hfield hr' hname hk' h
  by_cases hn' : ∃ name, other.type = .nested name
  · obtain ⟨name, ho⟩ := hn'
    exact (eq_of_nested ho hother hr hname.symm hk h.symm).symm
  obtain ⟨key, type⟩ := field
  obtain ⟨k, type'⟩ := other
  obtain rfl : key = k := hname
  rcases FieldType.eq_or_list hd (fun n hf => hn ⟨n, hf⟩) (fun n ho => hn' ⟨n, ho⟩) with
    ht | ⟨e, e', rfl, rfl, ht⟩
  · exact congrArg (mk key) ht
  · have hrows : (lines (.list key e)).map (Line.row width) ++
          bodyRows width (fields.filterMap statement?) =
        (lines (.list key e')).map (Line.row width) ++
          bodyRows width (others.filterMap statement?) := by
      rw [← bodyRows_cons, ← bodyRows_cons]
      exact h
    have hc := conversion_of_rows hrows
    rw [ElementType.eq_of_conversion_eq ht hc]

/-- The lines of fields with distinct keys and the rows of their statements tell the fields. -/
theorem eq_of_bodyRows (hr : ∀ f ∈ fields, f.type.Regular)
    (hr' : ∀ f ∈ others, f.type.Regular)
    (hrows : (fields.map fun f => f.line.row width) = others.map fun f => f.line.row width)
    (hk : (fields.map Field.name).Nodup) (hk' : (others.map Field.name).Nodup)
    (h : bodyRows width (fields.filterMap statement?) =
      bodyRows width (others.filterMap statement?)) : fields = others := by
  induction fields generalizing others with
  | nil =>
    cases others with
    | nil => rfl
    | cons other others => cases hrows
  | cons field fields ih =>
    cases others with
    | nil => cases hrows
    | cons other others =>
      rw [List.map_cons, List.nodup_cons] at hk hk'
      obtain ⟨hrow, hafter⟩ := List.cons.inj hrows
      obtain rfl := eq_of_bodyRows_cons hr hr' hrow hk.1 hk'.1 h
      have hrest : bodyRows width (fields.filterMap statement?) =
          bodyRows width (others.filterMap statement?) := by
        rw [List.filterMap_cons, List.filterMap_cons] at h
        cases hs : field.statement? with
        | none => simpa only [hs] using h
        | some s =>
          simp only [hs, bodyRows_cons] at h
          exact List.append_cancel_left h
      rw [List.forall_mem_cons] at hr hr'
      rw [ih hr.2 hr'.2 hafter hk.2 hk'.2 hrest]

end Field

namespace Model

/-- What a class tells: its name, its fields and its initializer. -/
abbrev Signature : Type := String × List Field × List Statement

def signature (m : Model) : Signature := (m.typeName, m.fields, m.initializer)

theorem classRows_eq (width : Nat) (m : Model) :
    m.classRows width = Line.row width ⟨0, "class " ++ m.typeName ++ " \x7b"⟩ ::
      ((m.fields.map fun f => f.line.row width) ++
        Line.row width ⟨1, "init(json:JSONValue) \x7b"⟩ ::
          Statement.bodyRows width m.initializer) := by
  simp [classRows, classLines, initializerLines, Statement.bodyRows]

private theorem initRow_notMem (width : Nat) (fields : List Field) :
    Line.row width ⟨1, "init(json:JSONValue) \x7b"⟩ ∉ fields.map fun f => f.line.row width := by
  simp only [List.mem_map, not_exists, not_and]
  intro field _ h
  have hfirst := congrArg (·.toList.head?) (Line.row_injective h)
  simp at hfirst

private theorem Regular.initializer_mem {m : Model} (h : m.Regular) (hf : m.fields = []) :
    m.initializer ∈ [[], [.arrayRoot], [.scalarRoot]] := by
  rcases h.initializer with hi | ⟨-, hi | hi⟩ <;> simp [hi, hf]

private theorem note_of_bodyRows {width : Nat} {notes others : List Statement}
    (hn : notes ∈ [[], [.arrayRoot], [.scalarRoot]])
    (ho : others ∈ [[], [.arrayRoot], [.scalarRoot]])
    (h : Statement.bodyRows width notes = Statement.bodyRows width others) : notes = others := by
  have hlength := congrArg List.length h
  have hnote : Statement.bodyRows width [.arrayRoot] ≠ Statement.bodyRows width [.scalarRoot] := by
    intro he
    have htext := Line.row_injective (List.cons.inj he).1
    exact absurd htext (by decide)
  simp only [List.mem_cons, List.not_mem_nil, or_false] at hn ho
  rcases hn with rfl | rfl | rfl <;> rcases ho with rfl | rfl | rfl
  · rfl
  · cases hlength
  · cases hlength
  · cases hlength
  · rfl
  · exact absurd h hnote
  · cases hlength
  · exact absurd h.symm hnote
  · rfl

/-- The rows of a class tell its signature. -/
theorem signature_eq_of_classRows {width : Nat} {m n : Model} (hm : m.Regular) (hn : n.Regular)
    (hk : (m.fields.map Field.name).Nodup) (hk' : (n.fields.map Field.name).Nodup)
    (h : m.classRows width = n.classRows width) : m.signature = n.signature := by
  rw [classRows_eq, classRows_eq] at h
  obtain ⟨hheader, hrest⟩ := List.cons.inj h
  obtain ⟨hrows, hbody⟩ := append_cons_inj_of_notMem_left (initRow_notMem width m.fields)
    (initRow_notMem width n.fields) hrest
  have hname : m.typeName = n.typeName := by
    have htext := (String.append_left_inj " \x7b").mp (Line.row_injective hheader)
    exact (String.append_right_inj "class ").mp htext
  have hlength : m.fields.length = n.fields.length := by
    simpa using congrArg List.length hrows
  by_cases hf : m.fields = []
  · have hf' : n.fields = [] := List.eq_nil_of_length_eq_zero (by rw [← hlength, hf]; rfl)
    have hi := note_of_bodyRows (hm.initializer_mem hf) (hn.initializer_mem hf') hbody
    rw [signature, signature, hname, hf, hf', hi]
  · have hf' : n.fields ≠ [] := by
      intro hf'
      rw [hf'] at hlength
      exact hf (List.eq_nil_of_length_eq_zero hlength)
    have hi := hm.initializer.resolve_right fun hnote => hf hnote.1
    have hi' := hn.initializer.resolve_right fun hnote => hf' hnote.1
    rw [hi, hi'] at hbody
    have hfields := Field.eq_of_bodyRows (fun _ => hm.type) (fun _ => hn.type) hrows
      hk hk' hbody
    rw [signature, signature, hname, hi, hi', hfields]

end Model

end SampleModels
