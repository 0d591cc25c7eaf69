import Mathlib.Data.List.Nodup
import SampleModels.Proofs.ClassNames

/-!
# References between inferred models

The fields, the statements and the children of a model tell of the same members, so a class that
one of them mentions is that of a child. In the whole tree each class is declared once, and each
but the root's is mentioned by one field.
-/

namespace SampleModels

def Statement.className? : Statement → Option String
  | .nested _ name => some name
  | .list _ (.nested name) => some name
  | _ => none

theorem Field.className?_statement? (field : Field) :
    field.statement?.bind Statement.className? = field.type.className? := by
  obtain ⟨key, type⟩ := field
  cases type with
  | list element => cases element <;> rfl
  | _ => rfl

namespace Model

def classNames (m : Model) : List String := m.fields.filterMap fun field => field.type.className?

/-- The children and the statements mention what the fields do. -/
def Linked (m : Model) : Prop :=
  m.children.map Model.typeName = m.classNames ∧
    m.initializer.filterMap Statement.className? = m.classNames

mutual

theorem children_preorder : ∀ m : Model,
    (m.preorder.flatMap Model.children).Perm (preorderAll m.children)
  | ⟨_, _, _, _, children⟩ => by
    rw [preorder, List.flatMap_cons]
    exact children_preorderAll children

/-- Each model below a list stands once among the members of the list and the children. -/
theorem children_preorderAll : ∀ ms : List Model,
    (ms ++ (preorderAll ms).flatMap Model.children).Perm (preorderAll ms)
  | [] => by
    rw [preorderAll]
    exact .nil
  | m :: rest => by
    have below := children_preorder m
    have after := children_preorderAll rest
    rw [preorderAll, List.flatMap_append]
    calc
      List.Perm _ (m :: (m.preorder.flatMap Model.children ++
          (rest ++ (preorderAll rest).flatMap Model.children))) :=
        (List.perm_append_comm_assoc _ _ _).cons m
      List.Perm _ (m :: (preorderAll m.children ++ preorderAll rest)) := (below.append after).cons m
      _ = m.preorder ++ preorderAll rest := by rw [preorder_eq m, List.cons_append]

end

theorem mem_preorder_of_mem_children {m n c : Model} (hn : n ∈ m.preorder) (hc : c ∈ n.children) :
    c ∈ m.preorder := by
  have h : c ∈ m.preorder.flatMap Model.children := List.mem_flatMap.mpr ⟨n, hn, hc⟩
  rw [preorder_eq]
  exact List.mem_cons_of_mem m ((children_preorder m).subset h)

/-- Where no name is declared twice, a model is the one that declares its name. -/
theorem filter_typeName {m c : Model} (hd : m.typeNames.Nodup) (hc : c ∈ m.preorder) :
    (m.preorder.filter fun k => k.typeName == c.typeName) = [c] :=
  Association.filter_eq_singleton hd hc

/-- The child of a mentioned name is the one model of the tree that declares it. -/
theorem child?_of_mem_classNames {m n : Model} {name : String} (hd : m.typeNames.Nodup)
    (hn : n ∈ m.preorder) (hl : n.Linked) (h : name ∈ n.classNames) :
    ∃ c, n.child? name = some c ∧ (m.preorder.filter fun k => k.typeName == name) = [c] := by
  rw [← hl.1] at h
  obtain ⟨c, hc, rfl⟩ := List.mem_map.mp h
  have hsome : (n.child? c.typeName).isSome := List.find?_isSome.mpr ⟨c, hc, beq_self_eq_true _⟩
  obtain ⟨found, hfound⟩ := Option.isSome_iff_exists.mp hsome
  have hname : found.typeName = c.typeName := by simpa using List.find?_some hfound
  have hmem := mem_preorder_of_mem_children hn (List.mem_of_find?_eq_some hfound)
  refine ⟨found, hfound, ?_⟩
  rw [← hname]
  exact filter_typeName hd hmem

theorem classNames_preorder {m : Model} (hl : ∀ n ∈ m.preorder, n.Linked) :
    ((m.preorder.flatMap Model.fields).filterMap fun field => field.type.className?).Perm
      ((preorderAll m.children).map Model.typeName) := by
  have hmap : m.preorder.flatMap Model.classNames =
      (m.preorder.flatMap Model.children).map Model.typeName := by
    rw [List.map_flatMap]
    exact List.flatMap_congr fun n hn => (hl n hn).1.symm
  rw [List.filterMap_flatMap]
  exact hmap ▸ (children_preorder m).map Model.typeName

theorem countP_className {m c : Model} (hd : m.typeNames.Nodup) (hl : ∀ n ∈ m.preorder, n.Linked)
    (hc : c ∈ preorderAll m.children) :
    ((m.preorder.flatMap Model.fields).countP fun field =>
      field.type.className? == some c.typeName) = 1 := by
  rw [← List.count_filterMap, (classNames_preorder hl).count_eq]
  rw [typeNames, preorder_eq, List.map_cons, List.nodup_cons] at hd
  exact List.count_eq_one_of_mem hd.2 (List.mem_map_of_mem hc)

end Model

namespace Inference

theorem classNames_model (inspect : Bool) (o : Entry) :
    (o.model inspect).classNames =
      (classKeys (o.model inspect).fields).map (nestedName o.name) := by
  simp only [Model.classNames, classKeys, Entry.model, outline, modelOf, fieldsOf,
    List.map_filterMap, List.filterMap_map]
  refine List.filterMap_congr ?_
  intro member _
  obtain ⟨key, value⟩ := member
  simp only [Function.comp_apply, className?_fieldType inspect _ (o.location.child key)]
  cases entered? inspect (o.location.child key) value <;> rfl

private theorem linked_model (inspect : Bool) (o : Entry) : (o.model inspect).Linked := by
  refine ⟨(typeNames_children inspect o).trans (classNames_model inspect o).symm, ?_⟩
  have hi : (o.model inspect).initializer = (o.model inspect).fields.filterMap Field.statement? :=
    rfl
  rw [hi, List.filterMap_filterMap, Model.classNames]
  exact List.filterMap_congr fun field _ => field.className?_statement?

theorem linked_of_mem_preorder {inspect : Bool} {name : String} {document : Json} {n : Model}
    (hn : n ∈ (sampleOutline inspect name document).preorder) : n.Linked := by
  rcases mem_preorder_cases hn with ⟨members, o, -, -, rfl⟩ | ⟨-, note, rfl | rfl, rfl⟩
  · exact linked_model inspect o
  · exact ⟨rfl, rfl⟩
  · exact ⟨rfl, rfl⟩

theorem mem_preorder_of_reaches {inspect : Bool} {o reached : Entry}
    (h : Entry.Reaches inspect o reached) : reached.model inspect ∈ (o.model inspect).preorder := by
  induction h with
  | refl => simp [Model.preorder_eq]
  | tail _ he ih => exact Model.mem_preorder_of_mem_children ih (mem_children_of_enters he)

/-- The fields, the statements and the children of a model agree. A class that a field or a
statement mentions is declared once, by a child, and a class below the root is mentioned by one
field of the tree. A root that is no object has a note alone. -/
theorem references_closed {document : Json} {rootName : String} {settings : Settings} {m : Model}
    (h : infer document rootName settings = .ok m) :
    (∀ members, document = .object members → ∀ n ∈ m.preorder,
      n.initializer = n.fields.filterMap Field.statement? ∧
      n.children.map Model.typeName = n.fields.filterMap fun field => field.type.className?) ∧
    (∀ n ∈ m.preorder, ∀ name ∈ n.fields.filterMap (fun field => field.type.className?) ++
        n.initializer.filterMap Statement.className?,
      ∃ c, n.child? name = some c ∧ (m.preorder.filter fun k => k.typeName == name) = [c]) ∧
    (∀ c ∈ Model.preorderAll m.children,
      ((m.preorder.flatMap Model.fields).countP fun field =>
        field.type.className? == some c.typeName) = 1) ∧
    ((∀ members, document ≠ .object members) →
      m.fields = [] ∧ m.children = [] ∧
      m.initializer = [if document.kind = .array then .arrayRoot else .scalarRoot]) := by
  obtain ⟨-, hc, rfl⟩ := (infer_eq_ok_iff document rootName settings m).mp h
  have hd : (sampleOutline settings.inspectArrays rootName document).typeNames.Nodup := by
    rw [typeNames_sampleOutline]
    exact nodup_claims hc
  refine ⟨?_, ?_, fun c => Model.countP_className hd fun n => linked_of_mem_preorder, ?_⟩
  · rintro members rfl n hn
    refine ⟨?_, (linked_of_mem_preorder hn).1⟩
    obtain ⟨o, -, rfl⟩ := exists_entry_of_mem_preorder (o := ⟨rootName, .root, members⟩) hn
    rfl
  · intro n hn name hname
    have hl := linked_of_mem_preorder hn
    rw [List.mem_append, hl.2] at hname
    exact Model.child?_of_mem_classNames hd hn hl (hname.elim id id)
  · intro hroot
    cases document with
    | object members => exact absurd rfl (hroot members)
    | _ => exact ⟨rfl, rfl, rfl⟩

theorem references_of_orderSample :
    ∃ m, infer orderSample "Order" ⟨true, 4⟩ = .ok m ∧
      m.initializer.filterMap Statement.className? = ["OrderAB", "OrderA"] ∧
      (∀ n ∈ m.preorder, n.initializer = n.fields.filterMap Field.statement?) ∧
      ∀ c ∈ Model.preorderAll m.children,
        ((m.preorder.flatMap Model.fields).countP fun field =>
          field.type.className? == some c.typeName) = 1 := by
  have h : infer orderSample "Order" ⟨true, 4⟩ = .ok (sampleOutline true "Order" orderSample) := rfl
  obtain ⟨hagree, -, honce, -⟩ := references_closed h
  exact ⟨_, h, rfl, fun n hn => (hagree _ rfl n hn).1, honce⟩

end Inference

end SampleModels
