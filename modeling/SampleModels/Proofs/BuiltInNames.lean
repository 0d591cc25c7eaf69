import Mathlib.Data.List.Infix
import SampleModels.Proofs.Decoding.Classes
import SampleModels.Proofs.Decoding.Headers
import SampleModels.Proofs.LetterCase
import SampleModels.Proofs.RootNames

/-!
# Classes with the name of a built-in type

A name goes on from that of the root with an upper case, so only few root names can grow into the
name of a built-in type. Where none has, what a declaration says is one type, and a declared name is
that of one class or of none.
-/

namespace SampleModels

/-- The characters begin with a lower case letter of ASCII. -/
def beginsLower : List Char → Bool
  | [] => false
  | c :: _ => c.isLower

/-- The name is the root's, or goes on after it with something else than a lower case letter. -/
def Extends (root name : String) : Prop :=
  root.toList <+: name.toList ∧ beginsLower (name.toList.drop root.toList.length) = false

instance (root name : String) : Decidable (Extends root name) :=
  inferInstanceAs (Decidable (_ ∧ _))

theorem extends_append (root suffix : String) :
    Extends root (root ++ suffix) ↔ beginsLower suffix.toList = false := by
  simp [Extends]

theorem Extends.exists_suffix {root name : String} (h : Extends root name) :
    ∃ suffix, name = root ++ suffix := by
  obtain ⟨suffix, hname⟩ := h.1
  exact ⟨String.ofList suffix, String.toList_inj.mp (by simp [hname])⟩

theorem Extends.refl (root : String) : Extends root root := by
  have h := (extends_append root "").mpr rfl
  rwa [String.append_empty] at h

theorem Extends.trans {root parent name : String} (h : Extends root parent)
    (hn : Extends parent name) : Extends root name := by
  obtain ⟨first, rfl⟩ := h.exists_suffix
  obtain ⟨second, rfl⟩ := hn.exists_suffix
  rw [extends_append] at h hn
  rw [String.append_assoc, extends_append, String.toList_append]
  cases hf : first.toList with
  | nil => exact hn
  | cons c rest =>
    rw [hf] at h
    exact h

theorem extends_nestedName (parent key : String) : Extends parent (nestedName parent key) := by
  unfold nestedName
  cases key.toList with
  | nil => exact Extends.refl parent
  | cons c rest =>
    dsimp only
    rw [extends_append, String.toList_ofList]
    cases hu : Text.uppercase c with
    | nil => exact absurd hu (Text.uppercase_ne_nil c)
    | cons first others =>
      have hmem : first ∈ Text.uppercase c := hu ▸ List.mem_cons_self
      exact Text.isLower_eq_false_of_mem_uppercase hmem

/-- What begins with no lower case letter is its own continuation of a name. -/
theorem nestedName_eq_append {suffix : String} (root : String)
    (h : suffix.toList.all isIdentifierRest)
    (hhead : beginsLower suffix.toList = false) : nestedName root suffix = root ++ suffix := by
  unfold nestedName
  cases hs : suffix.toList with
  | nil => simp [String.toList_eq_nil_iff.mp hs]
  | cons c rest =>
    rw [hs] at h hhead
    rw [List.all_cons, Bool.and_eq_true] at h
    have hc := Text.uppercase_of_not_isLower (isAscii_of_isIdentifierRest h.1) hhead
    dsimp only
    rw [hc, List.singleton_append, ← hs, String.ofList_toList]

namespace Inference

theorem extends_of_reaches {inspect : Bool} {o inside : Entry}
    (h : Entry.Reaches inspect o inside) : Extends o.name inside.name := by
  induction h with
  | refl => exact Extends.refl o.name
  | tail _ he ih =>
    obtain ⟨key, value, -, hname, -⟩ := he
    exact hname ▸ ih.trans (extends_nestedName _ key)

theorem extends_of_mem_typeNames {inspect : Bool} {rootName : String} {document : Json}
    {name : String} (h : name ∈ (sampleOutline inspect rootName document).typeNames) :
    Extends rootName name := by
  obtain ⟨n, hn, rfl⟩ := List.mem_map.mp h
  rcases mem_preorder_cases hn with ⟨members, o, rfl, hr, rfl⟩ | ⟨-, note, -, rfl⟩
  · exact extends_of_reaches hr
  · exact Extends.refl rootName

/-- A sample with one object inside, at this key. -/
def nestedSample (key : String) : Json := .object [(key, .object [])]

theorem infer_nestedSample {rootName suffix : String} (hi : isIdentifier rootName)
    (hrest : suffix.toList.all isIdentifierRest) (hne : suffix ≠ "")
    (hhead : beginsLower suffix.toList = false) (settings : Settings) :
    ∃ m, infer (nestedSample suffix) rootName settings = .ok m ∧
      rootName ++ suffix ∈ m.typeNames := by
  have hvisits : sampleVisits settings.inspectArrays rootName (nestedSample suffix) =
      [⟨rootName, suffix, Pointer.root.child suffix, true⟩] := rfl
  have hname := nestedName_eq_append rootName hrest hhead
  have hclaims : (claims rootName [⟨rootName, suffix, Pointer.root.child suffix, true⟩]).map
      Prod.fst = [rootName, rootName ++ suffix] := by
    simp [claims, Visit.claim?, Visit.typeName, hname]
  have hclean : Clean rootName
      (sampleVisits settings.inspectArrays rootName (nestedSample suffix)) := by
    have hlonger : rootName ≠ rootName ++ suffix := by
      intro he
      have hlist := congrArg String.toList he
      rw [String.toList_append, List.self_eq_append_right] at hlist
      exact hne (String.toList_eq_nil_iff.mp hlist)
    rw [hvisits, clean_iff, hclaims]
    refine ⟨?_, by simpa using hlonger⟩
    rw [List.forall_mem_singleton, Visit.defect?_eq_none_iff, Visit.typeName, hname,
      isIdentifier_append hi]
    refine ⟨?_, fun _ => ⟨hne, hrest⟩⟩
    rw [List.any_eq_false]
    rw [List.all_eq_true] at hrest
    intro c hc
    simp [not_isControl_of_isIdentifierRest (hrest c hc)]
  refine ⟨_, (infer_eq_ok_iff _ _ _ _).mpr ⟨hi, hclean, rfl⟩, ?_⟩
  rw [typeNames_sampleOutline, hvisits, hclaims]
  simp

/-- The names that models can have under a root are the identifiers that extend its name. -/
theorem exists_model_named_iff (rootName name : String) :
    (∃ document settings m, infer document rootName settings = .ok m ∧ name ∈ m.typeNames) ↔
      isIdentifier rootName ∧ isIdentifier name ∧ Extends rootName name := by
  constructor
  · rintro ⟨document, settings, m, h, hm⟩
    obtain ⟨hi, hc, rfl⟩ := (infer_eq_ok_iff document rootName settings m).mp h
    refine ⟨hi, ?_, extends_of_mem_typeNames hm⟩
    rw [typeNames_sampleOutline] at hm
    exact isIdentifier_of_mem_claims hi hc hm
  · rintro ⟨hi, hname, h⟩
    obtain ⟨suffix, rfl⟩ := h.exists_suffix
    rw [extends_append] at h
    rw [isIdentifier_append hi] at hname
    by_cases hne : suffix = ""
    · subst hne
      refine ⟨.null, ⟨false, 0⟩, _, (infer_eq_ok_iff _ _ _ _).mpr ⟨hi, clean_nil rootName, rfl⟩, ?_⟩
      rw [String.append_empty]
      exact List.mem_cons_self
    · obtain ⟨m, hm, hmem⟩ := infer_nestedSample hi hname hne h ⟨false, 0⟩
      exact ⟨_, _, m, hm, hmem⟩

end Inference

/-- The names of the types that no class is declared for. -/
def builtInNames : List String := ElementType.builtIn.map ElementType.typeName

/-- The names that can grow into that of a built-in type: those names, and their beginnings up to a
character that is no lower case letter. -/
def capturingRoots : List String :=
  ["String", "N", "NS", "NSNumber", "Bool", "J", "JS", "JSO", "JSON", "JSONValue", "Any",
    "AnyObject"]

theorem mem_capturingRoots_iff (rootName : String) :
    rootName ∈ capturingRoots ↔
      ∃ name ∈ builtInNames, isIdentifier rootName ∧ Extends rootName name := by
  have hto : ∀ root ∈ capturingRoots, ∃ name ∈ builtInNames, isIdentifier root ∧
      Extends root name := by decide +kernel
  have hfrom : ∀ name ∈ builtInNames, ∀ cs ∈ name.toList.inits, isIdentifier (String.ofList cs) →
      Extends (String.ofList cs) name → String.ofList cs ∈ capturingRoots := by decide +kernel
  refine ⟨hto rootName, ?_⟩
  rintro ⟨name, hname, hi, h⟩
  have hroot := hfrom name hname rootName.toList ((List.mem_inits _ _).mpr h.1)
  rw [String.ofList_toList] at hroot
  exact hroot hi h

theorem isIdentifier_of_mem_builtInNames : ∀ name ∈ builtInNames, isIdentifier name := by decide

namespace FieldType

/-- The type of the value, or that of the elements of a list. -/
def element : FieldType → ElementType
  | .scalar kind => .scalar kind
  | .rawJson => .rawJson
  | .dynamic => .dynamic
  | .nested name => .nested name
  | .list element => element

theorem element_single (e : ElementType) : (single e).element = e := by cases e <;> rfl

theorem className?_eq_some_iff (type : FieldType) (name : String) :
    type.className? = some name ↔ type.element = .nested name := by
  cases type with
  | list e => cases e <;> simp [className?, element]
  | _ => simp [className?, element]

end FieldType

/-- Types of one name are the same type, unless a class has the name of a built-in one. -/
theorem ElementType.eq_or_mem_builtInNames {element other : ElementType}
    (h : element.typeName = other.typeName) :
    element = other ∨ element.typeName ∈ builtInNames ∧
      ((∃ name, element = .nested name) ∨ ∃ name, other = .nested name) := by
  rcases element.nested_or_builtIn with ⟨name, rfl⟩ | hb
  · rcases other.nested_or_builtIn with ⟨n, rfl⟩ | hb'
    · exact .inl (congrArg nested h)
    · exact .inr ⟨h ▸ List.mem_map_of_mem hb', .inl ⟨name, rfl⟩⟩
  · rcases other.nested_or_builtIn with ⟨n, rfl⟩ | hb'
    · exact .inr ⟨List.mem_map_of_mem hb, .inr ⟨n, rfl⟩⟩
    · exact .inl (eq_of_mem_builtIn element hb other hb' h)

namespace FieldType

private theorem Regular.bracket_notMem {type : FieldType} (h : type.Regular) :
    '[' ∉ type.element.typeName.toList :=
  ElementType.notMem_typeName (fun name hn => h name ((type.className?_eq_some_iff name).mpr hn))
    (by decide)

/-- A declaration tells whether a field holds a list, and the name of the type. -/
theorem element_eq_of_declaration_eq {type other : FieldType} (hr : type.Regular)
    (hr' : other.Regular) (h : type.declaration = other.declaration) :
    type.element.typeName = other.element.typeName ∧
      (type.element = other.element → type = other) := by
  have hb := hr.bracket_notMem
  have hb' := hr'.bracket_notMem
  rcases type.single_or_list with ⟨e, rfl⟩ | ⟨e, rfl⟩
  · rw [element_single] at hb ⊢
    rcases other.single_or_list with ⟨e', rfl⟩ | ⟨e', rfl⟩
    · rw [element_single]
      rw [declaration_single, declaration_single] at h
      exact ⟨h, fun he => congrArg single he⟩
    · rw [declaration_single] at h
      exact absurd (h ▸ by simp [declaration]) hb
  · rcases other.single_or_list with ⟨e', rfl⟩ | ⟨e', rfl⟩
    · rw [declaration_single] at h
      rw [element_single] at hb'
      exact absurd (h.symm ▸ by simp [declaration]) hb'
    · exact ⟨by simpa [declaration, element] using h, fun he => congrArg list he⟩

end FieldType

namespace Model

/-- A class of the tree has the name of a built-in type. -/
def Captures (m : Model) (name : String) : Prop := name ∈ builtInNames ∧ name ∈ m.typeNames

instance (m : Model) (name : String) : Decidable (m.Captures name) :=
  inferInstanceAs (Decidable (_ ∧ _))

/-- A class that a field mentions is one of the tree. -/
theorem mem_typeNames_of_element {m n : Model} (hn : n ∈ m.preorder) (hl : n.Linked)
    {field : Field} (hf : field ∈ n.fields) {name : String}
    (h : field.type.element = .nested name) : name ∈ m.typeNames := by
  have hname : name ∈ n.classNames :=
    List.mem_filterMap.mpr ⟨field, hf, (field.type.className?_eq_some_iff name).mpr h⟩
  rw [← hl.1] at hname
  obtain ⟨c, hc, rfl⟩ := List.mem_map.mp hname
  exact List.mem_map_of_mem (mem_preorder_of_mem_children hn hc)

end Model

namespace Inference

/-- Fields declared alike have one type, unless a class has the name of a built-in type. -/
theorem type_eq_or_captures {document : Json} {rootName : String} {settings : Settings}
    {m n k : Model} (h : infer document rootName settings = .ok m) (hn : n ∈ m.preorder)
    (hk : k ∈ m.preorder) {field other : Field} (hf : field ∈ n.fields) (ho : other ∈ k.fields)
    (hd : field.type.declaration = other.type.declaration) :
    field.type = other.type ∨ m.Captures field.type.element.typeName := by
  obtain ⟨hname, htype⟩ := FieldType.element_eq_of_declaration_eq
    ((regular_of_infer h n hn).type hf) ((regular_of_infer h k hk).type ho) hd
  obtain ⟨-, -, rfl⟩ := (infer_eq_ok_iff document rootName settings m).mp h
  rcases ElementType.eq_or_mem_builtInNames hname with he | ⟨hb, ⟨name, he⟩ | ⟨name, he⟩⟩
  · exact .inl (htype he)
  · refine .inr ⟨hb, ?_⟩
    rw [he]
    exact Model.mem_typeNames_of_element hn (linked_of_mem_preorder hn) hf he
  · refine .inr ⟨hb, ?_⟩
    rw [hname, he]
    exact Model.mem_typeNames_of_element hk (linked_of_mem_preorder hk) ho he

/-- In the source, the name that a field is declared with is that of a built-in type and of no
class, or of one class and no built-in type, unless it is captured. -/
theorem classesNamed_element {document : Json} {rootName : String} {settings : Settings}
    {m n : Model} (h : infer document rootName settings = .ok m) (hn : n ∈ m.preorder)
    {field : Field} (hf : field ∈ n.fields) {layout : Settings} {text : String}
    (ht : m.render layout = .ok text) :
    let name := field.type.element.typeName
    m.Captures name ∨ (name ∈ builtInNames ∧ classesNamed text name = 0) ∨
      (name ∉ builtInNames ∧ classesNamed text name = 1) := by
  intro name
  obtain ⟨-, hc, rfl⟩ := (infer_eq_ok_iff document rootName settings m).mp h
  rw [Model.classesNamed_of_render ht]
  by_cases hb : name ∈ builtInNames
  · by_cases hm : name ∈ (sampleOutline settings.inspectArrays rootName document).typeNames
    · exact .inl ⟨hb, hm⟩
    · exact .inr (.inl ⟨hb, List.count_eq_zero.mpr hm⟩)
  · have hnested : ∃ n, field.type.element = .nested n :=
      field.type.element.nested_or_builtIn.resolve_right fun he => hb (List.mem_map_of_mem he)
    obtain ⟨c, he⟩ := hnested
    have hname : name = c := congrArg ElementType.typeName he
    refine .inr (.inr ⟨hb, List.count_eq_one_of_mem (nodup_typeNames hc) ?_⟩)
    rw [hname]
    exact Model.mem_typeNames_of_element hn (linked_of_mem_preorder hn) hf he

/-- Whether a class can get the name of a built-in type is decided by the root's name. As far as no
class has, fields declared alike have one type, and in the source a declared name is that of a
built-in type or of one class, and never both. -/
theorem built_in_captured_only_from_root (rootName : String) :
    ((∃ document settings m, infer document rootName settings = .ok m ∧
        ∃ name, m.Captures name) ↔ rootName ∈ capturingRoots) ∧
      ∀ document settings m, infer document rootName settings = .ok m →
        ∀ n ∈ m.preorder, ∀ field ∈ n.fields,
          let name := field.type.element.typeName
          (∀ k ∈ m.preorder, ∀ other ∈ k.fields,
            field.type.declaration = other.type.declaration →
              field.type = other.type ∨ m.Captures name) ∧
          ∀ layout text, m.render layout = .ok text →
            field.line.row layout.indentWidth ∈ Text.lines text ∧
              (m.Captures name ∨ (name ∈ builtInNames ∧ classesNamed text name = 0) ∨
                (name ∉ builtInNames ∧ classesNamed text name = 1)) := by
  refine ⟨?_, fun document settings m h n hn field hf => ⟨?_, fun layout text ht => ⟨?_, ?_⟩⟩⟩
  · rw [mem_capturingRoots_iff]
    constructor
    · rintro ⟨document, settings, m, h, name, hb, hm⟩
      obtain ⟨hi, -, he⟩ := (exists_model_named_iff rootName name).mp ⟨document, settings, m, h, hm⟩
      exact ⟨name, hb, hi, he⟩
    · rintro ⟨name, hb, hi, he⟩
      obtain ⟨document, settings, m, h, hm⟩ := (exists_model_named_iff rootName name).mpr
        ⟨hi, isIdentifier_of_mem_builtInNames name hb, he⟩
      exact ⟨document, settings, m, h, name, hb, hm⟩
  · exact fun k hk other ho hd => type_eq_or_captures h hn hk hf ho hd
  · exact Model.row_mem_lines_of_render ht hn hf
  · exact classesNamed_element h hn hf ht

/-- `Order` is no beginning of a built-in type's name, so declarations tell its types apart. -/
theorem types_of_orderSample :
    ∃ m, infer orderSample "Order" ⟨true, 4⟩ = .ok m ∧
      ∀ n ∈ m.preorder, ∀ field ∈ n.fields, ∀ k ∈ m.preorder, ∀ other ∈ k.fields,
        field.type.declaration = other.type.declaration → field.type = other.type := by
  have h : infer orderSample "Order" ⟨true, 4⟩ = .ok (sampleOutline true "Order" orderSample) := rfl
  obtain ⟨hroots, htypes⟩ := built_in_captured_only_from_root "Order"
  refine ⟨_, h, fun n hn field hf k hk other ho hd => ?_⟩
  refine ((htypes _ _ _ h n hn field hf).1 k hk other ho hd).resolve_right fun hcaptured => ?_
  exact absurd (hroots.mp ⟨_, _, _, h, _, hcaptured⟩) (by decide)

/-- Under the root `JSON` the key `value` gives a class the name of the type of raw values. -/
theorem json_value_captured :
    let document : Json := .object [("value", .object []), ("items", .array [])]
    ∃ m, infer document "JSON" ⟨false, 4⟩ = .ok m ∧ m.Captures "JSONValue" ∧
      (∃ field ∈ m.fields, ∃ other ∈ m.fields,
        field.type.declaration = other.type.declaration ∧ field.type ≠ other.type) ∧
      ∃ text, m.render ⟨false, 4⟩ = .ok text ∧ classesNamed text "JSONValue" = 1 := by
  intro document
  have h : infer document "JSON" ⟨false, 4⟩ = .ok (sampleOutline false "JSON" document) := rfl
  have hnames : (sampleOutline false "JSON" document).typeNames = ["JSON", "JSONValue"] := rfl
  have hrenders : ((sampleOutline false "JSON" document).render ⟨false, 4⟩).toOption.isSome := by
    decide +kernel
  refine ⟨_, h, ⟨by decide, by rw [hnames]; decide⟩, ?_, ?_⟩
  · exact ⟨⟨"value", .nested "JSONValue"⟩, by decide, ⟨"items", .rawJson⟩, by decide⟩
  · cases ht : (sampleOutline false "JSON" document).render ⟨false, 4⟩ with
    | error breach =>
      rw [ht] at hrenders
      cases hrenders
    | ok text =>
      refine ⟨text, rfl, ?_⟩
      rw [Model.classesNamed_of_render ht, hnames]
      decide

end Inference

end SampleModels
