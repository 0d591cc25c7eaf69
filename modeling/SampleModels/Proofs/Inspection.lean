import SampleModels.Proofs.References

/-!
# Trees with and without inspected arrays

Inspecting arrays only adds to a tree. What is inferred without inspection is the inspected tree
with its lists taken out: list fields keep the JSON value again, and the models they refer to are
gone. A walk without inspection visits some of the same members and claims some of the same names,
so it meets no fault that the inspecting walk does not meet.
-/

namespace SampleModels

namespace FieldType

/-- The type of the field when arrays are kept as they are. -/
def withoutList : FieldType → FieldType
  | .list _ => .rawJson
  | type => type

end FieldType

def Field.withoutList (field : Field) : Field := ⟨field.name, field.type.withoutList⟩

def Statement.withoutList : Statement → Statement
  | .list key _ => .passThrough key
  | s => s

theorem Field.statement?_withoutList (field : Field) :
    field.withoutList.statement? = field.statement?.map Statement.withoutList := by
  obtain ⟨key, type⟩ := field
  cases type <;> rfl

/-- One of the fields is a list of the class. -/
def listsClass (fields : List Field) (typeName : String) : Bool :=
  fields.any fun field => field.type = .list (.nested typeName)

namespace Model

mutual

/-- The tree without its lists and without the models that they refer to. -/
def withoutLists : Model → Model
  | ⟨name, location, fields, initializer, children⟩ =>
    ⟨name, location, fields.map Field.withoutList, initializer.map Statement.withoutList,
      outsideLists fields children⟩

/-- The trees that none of the fields lists, without their lists. -/
def outsideLists (fields : List Field) : List Model → List Model
  | [] => []
  | m :: rest =>
    if listsClass fields m.typeName then outsideLists fields rest
    else m.withoutLists :: outsideLists fields rest

end

theorem sublist_preorderAll (ms : List Model) : ms.Sublist (preorderAll ms) := by
  induction ms with
  | nil => exact .slnil
  | cons m rest ih =>
    rw [preorderAll, preorder_eq, List.cons_append]
    exact (ih.trans (List.sublist_append_right _ _)).cons_cons m

end Model

/-- Two elements of a list for which it has one value are the same, if its values are distinct. -/
private theorem eq_of_nodup_filterMap {α β : Type} {f : α → Option β} {xs : List α}
    (h : (xs.filterMap f).Nodup) {x y : α} (hx : x ∈ xs) (hy : y ∈ xs) {b : β}
    (hfx : f x = some b) (hfy : f y = some b) : x = y := by
  have hp := List.pairwise_filterMap.mp h
  have forward : xs.Pairwise fun x y => f x = some b → f y = some b → x = y :=
    hp.imp fun hne hx hy => absurd rfl (hne b hx b hy)
  have backward : xs.Pairwise fun x y => f y = some b → f x = some b → y = x :=
    hp.imp fun hne hy hx => absurd rfl (hne b hx b hy)
  exact forward.forall_of_forall_of_flip (fun _ _ _ _ => rfl) backward hx hy hfx hfy

/-- Where each class is mentioned once, the field that mentions a class is the one to list it. -/
theorem listsClass_iff {fields : List Field} {field : Field} {typeName : String}
    (hf : (fields.filterMap fun field => field.type.className?).Nodup) (hm : field ∈ fields)
    (hc : field.type.className? = some typeName) :
    listsClass fields typeName ↔ field.type = .list (.nested typeName) := by
  rw [listsClass, List.any_eq_true]
  constructor
  · rintro ⟨other, ho, hlist⟩
    have htype := of_decide_eq_true hlist
    have hoc : other.type.className? = some typeName := by rw [htype]; rfl
    rw [eq_of_nodup_filterMap hf hm ho hc hoc, htype]
  · exact fun h => ⟨field, hm, decide_eq_true h⟩

namespace Inference

theorem fieldType_false (typeName : String) (value : Json) :
    fieldType false typeName value = (fieldType true typeName value).withoutList := by
  cases value with
  | array items => cases items <;> rfl
  | _ => rfl

theorem fieldsOf_false (name : String) (members : List (String × Json)) :
    fieldsOf false name members = (fieldsOf true name members).map Field.withoutList := by
  simp [fieldsOf, Field.withoutList, fieldType_false]

theorem withoutLists_modelOf (name : String) (location : Pointer)
    (members : List (String × Json)) (children : List Model) :
    (modelOf true name location members children).withoutLists =
      modelOf false name location members
        (Model.outsideLists (fieldsOf true name members) children) := by
  have hs : Field.statement? ∘ Field.withoutList =
      fun field => field.statement?.map Statement.withoutList :=
    funext Field.statement?_withoutList
  rw [modelOf, Model.withoutLists, modelOf, fieldsOf_false, List.filterMap_map, hs,
    List.map_filterMap]

/-- A walk without inspection enters the same object at a member, or none where an inspecting one
finds a list of objects. -/
theorem entered?_false_cases {location place : Pointer} {value : Json}
    {below : List (String × Json)} (h : entered? true location value = some (place, below)) :
    (entered? false location value = some (place, below) ∧
      ∀ typeName, fieldType true typeName value = .nested typeName) ∨
    (entered? false location value = none ∧
      ∀ typeName, fieldType true typeName value = .list (.nested typeName)) := by
  rcases entered?_cases h with ⟨rfl, rfl⟩ | ⟨rest, -, rfl, -⟩
  · exact .inl ⟨rfl, fun _ => rfl⟩
  · exact .inr ⟨rfl, fun _ => rfl⟩

theorem entered?_false_eq_none {location : Pointer} {value : Json}
    (h : entered? true location value = none) : entered? false location value = none := by
  cases hf : entered? false location value with
  | none => rfl
  | some entry =>
    rcases entered?_cases hf with ⟨rfl, -⟩ | ⟨rest, hinspect, -⟩
    · cases h
    · cases hinspect

theorem nodup_classNames {inspect : Bool} {o : Entry}
    (h : ((Model.preorderAll (o.model inspect).children).map Model.typeName).Nodup) :
    (o.model inspect).classNames.Nodup := by
  rw [classNames_model, ← typeNames_children]
  exact h.sublist ((Model.sublist_preorderAll _).map _)

/-- Taking the lists out of the models inside an object leaves those that are inside it without
inspection. The names tell a model found in a list from one found at a member itself. -/
theorem outsideLists_inner {fields : List Field} (name : String) (location : Pointer)
    (members : List (String × Json)) (hs : fieldsOf true name members ⊆ fields)
    (hf : (fields.filterMap fun field => field.type.className?).Nodup)
    (hn : ((Model.preorderAll (inner true name location members)).map Model.typeName).Nodup) :
    Model.outsideLists fields (inner true name location members) =
      inner false name location members := by
  induction members using members_induction true generalizing fields name location with
  | nil => rfl
  | cons key value rest inside ih =>
    have hfield : ⟨key, fieldType true (nestedName name key) value⟩ ∈ fields :=
      hs List.mem_cons_self
    have hrest : fieldsOf true name rest ⊆ fields := fun _ hm => hs (List.mem_cons_of_mem _ hm)
    rw [inner_cons, innerAt_eq] at hn
    rw [inner_cons, innerAt_eq, inner_cons, innerAt_eq]
    cases h : entered? true (location.child key) value with
    | none =>
      rw [h] at hn
      simpa [entered?_false_eq_none h] using ih name location hrest hf (by simpa using hn)
    | some entry =>
      obtain ⟨place, below⟩ := entry
      rw [h] at hn
      simp only [Option.map_some, Option.toList_some, List.cons_append, List.nil_append,
        Model.preorderAll, Model.preorder_eq, List.map_append, List.map_cons] at hn
      obtain ⟨hbelow, htail, -⟩ := List.nodup_append.mp (List.nodup_cons.mp hn).2
      have hchild : (outline true (nestedName name key) place below).withoutLists =
          outline false (nestedName name key) place below := by
        rw [outline, withoutLists_modelOf, outline, inside _ _ _ h _ _ (List.Subset.refl _)
          (nodup_classNames (o := ⟨nestedName name key, place, below⟩) hbelow) hbelow]
      have hmentioned : (fieldType true (nestedName name key) value).className? =
          some (nestedName name key) := by
        rw [className?_fieldType true _ (location.child key), h]
        rfl
      have hlisted := listsClass_iff hf hfield hmentioned
      have hname : (outline true (nestedName name key) place below).typeName =
          nestedName name key := rfl
      simp only [Option.map_some, Option.toList_some, List.cons_append, List.nil_append]
      rw [Model.outsideLists, hname, ih name location hrest hf htail]
      rcases entered?_false_cases h with ⟨hkept, htype⟩ | ⟨hgone, htype⟩
      · have hunlisted : ¬ listsClass fields (nestedName name key) := by simp [hlisted, htype]
        rw [if_neg hunlisted, hchild, hkept]
        rfl
      · rw [if_pos (hlisted.mpr (htype _)), hgone]
        rfl

/-- The tree that is made of a sample without inspection is the inspected one without its lists. -/
theorem withoutLists_sampleOutline {name : String} {document : Json}
    (hn : (sampleOutline true name document).typeNames.Nodup) :
    (sampleOutline true name document).withoutLists = sampleOutline false name document := by
  cases document with
  | object members =>
    rw [Model.typeNames, Model.preorder_eq, List.map_cons, List.nodup_cons] at hn
    rw [sampleOutline, outline, withoutLists_modelOf, sampleOutline, outline,
      outsideLists_inner name .root members (List.Subset.refl _)
        (nodup_classNames (o := ⟨name, .root, members⟩) hn.2) hn.2]
  | _ => rfl

/-- The same member, where the first visit enters an object if the second does. -/
def Visit.Covers (w v : Visit) : Prop :=
  w.parent = v.parent ∧ w.key = v.key ∧ w.location = v.location ∧ (v.entered → w.entered)

theorem Visit.Covers.defect?_eq_none {v w : Visit} (h : w.Covers v) (hw : w.defect? = none) :
    v.defect? = none := by
  obtain ⟨hp, hk, -, he⟩ := h
  have hname : w.typeName = v.typeName := by rw [Visit.typeName, Visit.typeName, hp, hk]
  rw [Visit.defect?_eq_none_iff, hname, hk] at hw
  rw [Visit.defect?_eq_none_iff]
  exact ⟨hw.1, fun hv => hw.2 (he hv)⟩

theorem Visit.Covers.claim? {v w : Visit} (h : w.Covers v) (hv : v.entered) :
    v.claim? = w.claim? := by
  obtain ⟨hp, hk, hl, he⟩ := h
  rw [Visit.claim?, Visit.claim?, if_pos hv, if_pos (he hv), Visit.typeName, Visit.typeName, hp, hk,
    hl]

/-- The first run visits members of the second, and claims names of it in the same order. -/
structure FewerVisits (visited more : List Visit) : Prop where
  covered : ∀ v ∈ visited, ∃ w ∈ more, w.Covers v
  claims : (visited.filterMap Visit.claim?).Sublist (more.filterMap Visit.claim?)

namespace FewerVisits

theorem nil (more : List Visit) : FewerVisits [] more :=
  ⟨fun _ hv => absurd hv List.not_mem_nil, List.nil_sublist _⟩

theorem cons {v w : Visit} {visited more : List Visit} (hv : w.Covers v)
    (h : FewerVisits visited more) : FewerVisits (v :: visited) (w :: more) := by
  constructor
  · rintro u hu
    rcases List.mem_cons.mp hu with rfl | hu
    · exact ⟨w, List.mem_cons_self, hv⟩
    · obtain ⟨x, hx, hux⟩ := h.covered u hu
      exact ⟨x, List.mem_cons_of_mem _ hx, hux⟩
  · cases he : v.entered with
    | false =>
      have hnone : v.claim? = none := by simp [Visit.claim?, he]
      rw [List.filterMap_cons_none hnone]
      exact h.claims.trans ((List.sublist_cons_self w more).filterMap _)
    | true =>
      rw [List.filterMap_cons, hv.claim? he, List.filterMap_cons]
      cases w.claim? with
      | none => exact h.claims
      | some claim => exact h.claims.cons_cons claim

theorem append {visited more visited' more' : List Visit} (h : FewerVisits visited more)
    (h' : FewerVisits visited' more') : FewerVisits (visited ++ visited') (more ++ more') := by
  constructor
  · intro v hv
    rcases List.mem_append.mp hv with hv | hv
    · obtain ⟨w, hw, hc⟩ := h.covered v hv
      exact ⟨w, List.mem_append_left _ hw, hc⟩
    · obtain ⟨w, hw, hc⟩ := h'.covered v hv
      exact ⟨w, List.mem_append_right _ hw, hc⟩
  · rw [List.filterMap_append, List.filterMap_append]
    exact h.claims.append h'.claims

/-- A run that visits less meets no fault if the other meets none. -/
theorem clean {rootName : String} {visited more : List Visit} (h : FewerVisits visited more)
    (hc : Clean rootName more) : Clean rootName visited := by
  rw [clean_iff] at hc ⊢
  constructor
  · intro v hv
    obtain ⟨w, hw, hcovers⟩ := h.covered v hv
    exact hcovers.defect?_eq_none (hc.1 w hw)
  · exact hc.2.sublist ((h.claims.cons_cons _).map _)

end FewerVisits

theorem visits_false (name : String) (location : Pointer) (members : List (String × Json)) :
    FewerVisits (visits false name location members) (visits true name location members) := by
  induction members using members_induction true generalizing name location with
  | nil => exact .nil _
  | cons key value rest inside ih =>
    rw [visits_cons, visitsAt_eq, visits_cons, visitsAt_eq]
    cases h : entered? true (location.child key) value with
    | none =>
      rw [entered?_false_eq_none h]
      exact .cons ⟨rfl, rfl, rfl, id⟩ (ih name location)
    | some entry =>
      obtain ⟨place, below⟩ := entry
      rcases entered?_false_cases h with ⟨hkept, -⟩ | ⟨hgone, -⟩
      · rw [hkept]
        exact .cons ⟨rfl, rfl, rfl, id⟩ ((inside _ _ _ h _ _).append (ih name location))
      · rw [hgone]
        exact .cons ⟨rfl, rfl, rfl, fun _ => rfl⟩ ((FewerVisits.nil _).append (ih name location))

theorem sampleVisits_false (name : String) (document : Json) :
    FewerVisits (sampleVisits false name document) (sampleVisits true name document) := by
  cases document with
  | object members => exact visits_false name .root members
  | _ => exact .nil _

/-- Without inspection a sample gives the tree that it gives with inspection, without the lists, and
a sample that is refused without inspection is refused with it. -/
theorem uninspected_tree_is_pruned (document : Json) (rootName : String) (settings : Settings) :
    (∀ m, infer document rootName { settings with inspectArrays := true } = .ok m →
      infer document rootName { settings with inspectArrays := false } = .ok m.withoutLists) ∧
    (∀ fault, infer document rootName { settings with inspectArrays := false } = .error fault →
      ∃ other, infer document rootName { settings with inspectArrays := true } = .error other) := by
  have hpruned : ∀ m, infer document rootName { settings with inspectArrays := true } = .ok m →
      infer document rootName { settings with inspectArrays := false } = .ok m.withoutLists := by
    intro m h
    obtain ⟨hi, hc, rfl⟩ := (infer_eq_ok_iff _ _ _ _).mp h
    exact (infer_eq_ok_iff _ _ _ _).mpr ⟨hi, (sampleVisits_false rootName document).clean hc,
      withoutLists_sampleOutline (nodup_typeNames hc)⟩
  refine ⟨hpruned, fun fault hf => ?_⟩
  cases h : infer document rootName { settings with inspectArrays := true } with
  | error other => exact ⟨other, rfl⟩
  | ok m =>
    rw [hpruned m h] at hf
    cases hf

theorem pruned_orderSample :
    (∃ m, infer orderSample "Order" ⟨true, 4⟩ = .ok m ∧
      m.typeNames = ["Order", "OrderAB", "OrderA", "OrderAItems", "OrderAItemsB"] ∧
      infer orderSample "Order" ⟨false, 4⟩ = .ok m.withoutLists ∧
      m.withoutLists.typeNames = ["Order", "OrderAB", "OrderA"]) ∧
    ∃ fault other, infer (.object [("a b", .object [])]) "Order" ⟨false, 4⟩ = .error fault ∧
      infer (.object [("a b", .object [])]) "Order" ⟨true, 4⟩ = .error other := by
  have h : infer orderSample "Order" ⟨true, 4⟩ = .ok (sampleOutline true "Order" orderSample) := rfl
  have hf : infer (.object [("a b", .object [])]) "Order" ⟨false, 4⟩ =
      .error (.invalidFieldKey ⟨["a b"]⟩ "a b" .notIdentifier) := rfl
  obtain ⟨other, ho⟩ := (uninspected_tree_is_pruned _ "Order" ⟨true, 4⟩).2 _ hf
  exact ⟨⟨_, h, rfl, (uninspected_tree_is_pruned _ "Order" ⟨true, 4⟩).1 _ h, rfl⟩,
    _, other, hf, ho⟩

end Inference

end SampleModels
