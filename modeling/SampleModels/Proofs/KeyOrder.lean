import SampleModels.Proofs.References

/-!
# The order of keys

A sample whose objects list their members in another order is accepted or refused alike, and its
tree has the same models with the fields, the statements and the children in another order. The
order decides only which of several faults is met first: whether there is one can be told from the
members visited, in whatever order they stand.
-/

namespace SampleModels

namespace Json

mutual

/-- The values differ in the order of members, in any of the objects inside, and in nothing else. -/
inductive Reordered : Json → Json → Prop where
  | null : Reordered .null .null
  | bool (value : Bool) : Reordered (.bool value) (.bool value)
  | number (literal : String) : Reordered (.number literal) (.number literal)
  | string (value : String) : Reordered (.string value) (.string value)
  | array {items others : List Json} (h : ReorderedItems items others) :
    Reordered (.array items) (.array others)
  | object {members below others : List (String × Json)} (h : ReorderedMembers members below)
    (hp : below.Perm others) : Reordered (.object members) (.object others)

/-- The items in their order, reordered inside. -/
inductive ReorderedItems : List Json → List Json → Prop where
  | nil : ReorderedItems [] []
  | cons {item other : Json} {rest others : List Json} (h : Reordered item other)
    (hr : ReorderedItems rest others) : ReorderedItems (item :: rest) (other :: others)

/-- The members in their order, with values that are reordered inside. -/
inductive ReorderedMembers : List (String × Json) → List (String × Json) → Prop where
  | nil : ReorderedMembers [] []
  | cons (key : String) {value other : Json} {rest others : List (String × Json)}
    (h : Reordered value other) (hr : ReorderedMembers rest others) :
    ReorderedMembers ((key, value) :: rest) ((key, other) :: others)

end

theorem ReorderedMembers.exists_of_mem {members others : List (String × Json)}
    (h : ReorderedMembers members others) {key : String} {value : Json}
    (hm : (key, value) ∈ members) : ∃ other, (key, other) ∈ others ∧ value.Reordered other := by
  induction members generalizing others with
  | nil => cases hm
  | cons member rest ih =>
    cases h with
    | cons k hv hr =>
      rcases List.mem_cons.mp hm with heq | hm
      · cases heq
        exact ⟨_, List.mem_cons_self, hv⟩
      · obtain ⟨other, ho, hother⟩ := ih hr hm
        exact ⟨other, List.mem_cons_of_mem _ ho, hother⟩

end Json

namespace Inference

open Json

theorem fieldType_reordered {a b : Json} (h : a.Reordered b) (inspect : Bool)
    (typeName : String) : fieldType inspect typeName a = fieldType inspect typeName b := by
  cases h with
  | array h =>
    cases h with
    | nil => rfl
    | @cons first other _ _ h _ =>
      have helement : elementType typeName first = elementType typeName other := by cases h <;> rfl
      simp [fieldType, helement]
  | _ => rfl

/-- At values that are reordered inside, objects are entered at one place, reordered themselves, or
none is. -/
theorem entered?_reordered {a b : Json} (h : a.Reordered b) (inspect : Bool) (location : Pointer) :
    (entered? inspect location a = none ∧ entered? inspect location b = none) ∨
      ∃ place members others, entered? inspect location a = some (place, members) ∧
        entered? inspect location b = some (place, others) ∧
        (Json.object members).Reordered (.object others) := by
  cases h with
  | object h hp => exact .inr ⟨_, _, _, rfl, rfl, .object h hp⟩
  | array h =>
    cases h with
    | nil => exact .inl ⟨rfl, rfl⟩
    | cons h _ =>
      cases h with
      | object h hp =>
        cases inspect with
        | false => exact .inl ⟨rfl, rfl⟩
        | true => exact .inr ⟨_, _, _, rfl, rfl, .object h hp⟩
      | _ => exact .inl ⟨rfl, rfl⟩
  | _ => exact .inl ⟨rfl, rfl⟩

theorem fieldsOf_reordered {members others : List (String × Json)}
    (h : ReorderedMembers members others) (inspect : Bool) (name : String) :
    fieldsOf inspect name members = fieldsOf inspect name others := by
  induction members generalizing others with
  | nil => cases h; rfl
  | cons member rest ih =>
    cases h with
    | cons key hv hr =>
      have hrest := ih hr
      simp only [fieldsOf, List.map_cons, fieldType_reordered hv] at hrest ⊢
      rw [hrest]

theorem fieldsOf_perm {members others : List (String × Json)}
    (h : (Json.object members).Reordered (.object others)) (inspect : Bool) (name : String) :
    (fieldsOf inspect name members).Perm (fieldsOf inspect name others) := by
  cases h with
  | object h hp =>
    rw [fieldsOf_reordered h]
    exact hp.map _

theorem visits_perm_of_perm {members others : List (String × Json)} (h : members.Perm others)
    (inspect : Bool) (name : String) (location : Pointer) :
    (visits inspect name location members).Perm (visits inspect name location others) := by
  rw [visits_eq_flatMap, visits_eq_flatMap]
  exact h.flatMap_right _

/-- The same members are visited, in another order. -/
theorem visits_perm {members others : List (String × Json)}
    (h : (Json.object members).Reordered (.object others)) (inspect : Bool) (name : String)
    (location : Pointer) :
    (visits inspect name location members).Perm (visits inspect name location others) := by
  induction members using members_induction inspect generalizing others name location with
  | nil =>
    cases h with
    | object h hp =>
      cases h
      exact visits_perm_of_perm hp inspect name location
  | cons key value rest inside ih =>
    cases h with
    | object h hp =>
      refine .trans ?_ (visits_perm_of_perm hp inspect name location)
      cases h with
      | cons _ hv hr =>
        have tail := ih (.object hr (.refl _)) name location
        rw [visits_cons, visits_cons, visitsAt_eq, visitsAt_eq]
        rcases entered?_reordered hv inspect (location.child key) with
          ⟨hnone, hnone'⟩ | ⟨place, below, under, hsome, hsome', hbelow⟩
        · rw [hnone, hnone']
          exact tail.cons _
        · rw [hsome, hsome']
          exact ((inside _ _ _ hsome hbelow _ place).append tail).cons _

/-- The entered objects become models of one name at one place, and are reordered. -/
structure Entry.Reordered (o p : Entry) : Prop where
  name : p.name = o.name
  location : p.location = o.location
  members : (Json.object o.members).Reordered (.object p.members)

theorem Entry.Reordered.enters {inspect : Bool} {o p inside : Entry} (h : o.Reordered p)
    (he : Entry.Enters inspect o inside) :
    ∃ other, Entry.Enters inspect p other ∧ inside.Reordered other := by
  obtain ⟨key, value, hm, hname, he⟩ := he
  obtain ⟨hn, hl, hr⟩ := h
  cases hr with
  | object h hp =>
    obtain ⟨other, ho, hv⟩ := h.exists_of_mem hm
    rcases entered?_reordered hv inspect (o.location.child key) with
      ⟨hnone, -⟩ | ⟨place, below, under, hsome, hsome', hbelow⟩
    · rw [hnone] at he
      cases he
    · rw [hsome, Option.some.injEq, Prod.mk.injEq] at he
      obtain ⟨rfl, rfl⟩ := he
      refine ⟨⟨nestedName p.name key, inside.location, under⟩,
        ⟨key, other, hp.subset ho, rfl, hl ▸ hsome'⟩, ?_, rfl, hbelow⟩
      rw [hname, hn]

theorem Entry.Reordered.reaches {inspect : Bool} {o p reached : Entry} (h : o.Reordered p)
    (hr : Entry.Reaches inspect o reached) :
    ∃ other, Entry.Reaches inspect p other ∧ reached.Reordered other := by
  induction hr with
  | refl => exact ⟨p, .refl, h⟩
  | tail _ he ih =>
    obtain ⟨middle, hm, hmiddle⟩ := ih
    obtain ⟨other, ho, hother⟩ := hmiddle.enters he
    exact ⟨other, hm.tail ho, hother⟩

end Inference

namespace Model

/-- The models have one name, one location, and the same fields, statements and classes below them,
up to their order. -/
structure Resembles (m k : Model) : Prop where
  typeName : k.typeName = m.typeName
  location : k.location = m.location
  fields : m.fields.Perm k.fields
  initializer : m.initializer.Perm k.initializer
  children : (m.children.map Model.typeName).Perm (k.children.map Model.typeName)

theorem Resembles.refl (m : Model) : m.Resembles m := ⟨rfl, rfl, .refl _, .refl _, .refl _⟩

/-- The model of the tree that declares the name. -/
def named? (m : Model) (name : String) : Option Model :=
  m.preorder.find? fun k => k.typeName == name

theorem named?_typeName {m k : Model} (hd : m.typeNames.Nodup) (hk : k ∈ m.preorder) :
    m.named? k.typeName = some k := by
  rw [named?, ← List.head?_filter, filter_typeName hd hk]
  rfl

/-- The model of the tree that has the name of `n`. -/
def partner (m n : Model) : Model := (m.named? n.typeName).getD n

theorem partner_eq {m n k : Model} (hd : m.typeNames.Nodup) (hk : k ∈ m.preorder)
    (hn : n.typeName = k.typeName) : m.partner n = k := by
  rw [partner, hn, named?_typeName hd hk]
  rfl

/-- Models of a tree are the partners of those that have their names, in whatever order. -/
theorem map_partner_perm {m : Model} (hd : m.typeNames.Nodup) {ms ks : List Model}
    (hk : ks ⊆ m.preorder) (h : (ms.map Model.typeName).Perm (ks.map Model.typeName)) :
    (ms.map m.partner).Perm ks := by
  have hks : (ks.map Model.typeName).filterMap m.named? = ks := by
    rw [List.filterMap_map]
    exact (List.filterMap_congr fun k hmem => named?_typeName hd (hk hmem)).trans
      List.filterMap_some
  have hms : (ms.map Model.typeName).filterMap m.named? = ms.map m.partner := by
    rw [List.filterMap_map, ← List.filterMap_eq_map]
    refine List.filterMap_congr fun n hn => ?_
    obtain ⟨k, hkm, hname⟩ := List.mem_map.mp (h.subset (List.mem_map_of_mem hn))
    rw [Function.comp_apply, ← hname, named?_typeName hd (hk hkm), Function.comp_apply,
      partner_eq hd (hk hkm) hname.symm]
  rw [← hms]
  exact (h.filterMap m.named?).trans (.of_eq hks)

end Model

namespace Inference

open Json

theorem Entry.Reordered.resembles {o p : Entry} (h : o.Reordered p) (inspect : Bool) :
    (o.model inspect).Resembles (p.model inspect) := by
  obtain ⟨hn, hl, hm⟩ := h
  have hfields : (o.model inspect).fields.Perm (p.model inspect).fields := by
    change (fieldsOf inspect o.name o.members).Perm (fieldsOf inspect p.name p.members)
    rw [hn]
    exact fieldsOf_perm hm inspect o.name
  have hchildren : ∀ e : Entry,
      (e.model inspect).children.map Model.typeName = (e.model inspect).classNames := fun e =>
    (typeNames_children inspect e).trans (classNames_model inspect e).symm
  refine ⟨hn, hl, hfields, hfields.filterMap _, ?_⟩
  rw [hchildren, hchildren]
  exact hfields.filterMap _

theorem sampleVisits_perm {a b : Json} (h : a.Reordered b) (inspect : Bool) (name : String) :
    (sampleVisits inspect name a).Perm (sampleVisits inspect name b) := by
  cases h with
  | object h hp => exact visits_perm (.object h hp) inspect name .root
  | _ => exact .refl _

/-- Each model of a tree resembles one of the tree of a reordered sample. -/
theorem exists_resembling {a b : Json} (h : a.Reordered b) {inspect : Bool} {name : String}
    {n : Model} (hn : n ∈ (sampleOutline inspect name a).preorder) :
    ∃ k ∈ (sampleOutline inspect name b).preorder, n.Resembles k := by
  cases h with
  | @object members _ others h hp =>
    have hroot : Entry.Reordered ⟨name, .root, members⟩ ⟨name, .root, others⟩ :=
      ⟨rfl, rfl, .object h hp⟩
    obtain ⟨o, hr, rfl⟩ := exists_entry_of_mem_preorder (o := ⟨name, .root, members⟩) hn
    obtain ⟨other, ho, hresembles⟩ := hroot.reaches hr
    exact ⟨other.model inspect, mem_preorder_of_reaches ho, hresembles.resembles inspect⟩
  | _ => exact ⟨n, hn, .refl n⟩

theorem claims_perm {rootName : String} {visited others : List Visit} (h : visited.Perm others) :
    (claims rootName visited).Perm (claims rootName others) := (h.filterMap _).cons _

/-- The order of the visits does not decide whether they meet a fault. -/
theorem clean_perm {rootName : String} {visited others : List Visit} (h : visited.Perm others) :
    Clean rootName visited ↔ Clean rootName others := by
  rw [clean_iff, clean_iff, ((claims_perm h).map Prod.fst).nodup_iff]
  simp only [h.mem_iff]

/-- A sample with its members in another order is accepted if the sample is. The models of the two
trees are partners, one to one, with the same names and locations, the same fields and statements up
to their order, and partners for children. -/
theorem key_order_immaterial {a b : Json} (h : a.Reordered b) (rootName : String)
    (settings : Settings) :
    ((∃ m, infer a rootName settings = .ok m) ↔ ∃ k, infer b rootName settings = .ok k) ∧
    ∀ m k, infer a rootName settings = .ok m → infer b rootName settings = .ok k →
      ∃ partner : Model → Model, (m.preorder.map partner).Perm k.preorder ∧
        ∀ n ∈ m.preorder, (partner n).typeName = n.typeName ∧
          (partner n).location = n.location ∧ n.fields.Perm (partner n).fields ∧
          n.initializer.Perm (partner n).initializer ∧
          (n.children.map partner).Perm (partner n).children := by
  have hvisits := sampleVisits_perm h settings.inspectArrays rootName
  constructor
  · simp only [infer_eq_ok_iff, clean_perm hvisits, exists_and_left, exists_eq]
  · intro m k hm hk
    obtain ⟨-, -, rfl⟩ := (infer_eq_ok_iff _ _ _ _).mp hm
    obtain ⟨-, hc, rfl⟩ := (infer_eq_ok_iff _ _ _ _).mp hk
    have hd := nodup_typeNames hc
    refine ⟨Model.partner _, Model.map_partner_perm hd (List.Subset.refl _) ?_, ?_⟩
    · change (Model.typeNames _).Perm (Model.typeNames _)
      rw [typeNames_sampleOutline, typeNames_sampleOutline]
      exact (claims_perm hvisits).map _
    · intro n hn
      obtain ⟨k, hk, hr⟩ := exists_resembling h hn
      rw [Model.partner_eq hd hk hr.typeName.symm]
      exact ⟨hr.typeName, hr.location, hr.fields, hr.initializer,
        Model.map_partner_perm hd (fun _ => Model.mem_preorder_of_mem_children hk) hr.children⟩

/-- `orderSample` with two members of the order, and two of its item, the other way round. -/
def shuffledOrder : Json :=
  .object [("aB", .object [("0", .null)]), ("id", .number "1"),
    ("a", .object [("items", .array [.object [("b", .object []), ("sku", .string "x")], .null])]),
    ("", .bool true), ("~/", .array [.array []])]

theorem reordered_shuffledOrder : orderSample.Reordered shuffledOrder := by
  have hitem : (Json.object [("sku", .string "x"), ("b", .object [])]).Reordered
      (.object [("b", .object []), ("sku", .string "x")]) :=
    .object (.cons _ (.string "x") (.cons _ (.object .nil .nil) .nil)) (.swap _ _ _)
  have ha : (Json.object [("items", .array [.object [("sku", .string "x"), ("b", .object [])],
      .null])]).Reordered (.object [("items", .array [.object [("b", .object []),
        ("sku", .string "x")], .null])]) :=
    .object (.cons _ (.array (.cons hitem (.cons .null .nil))) .nil) (.refl _)
  exact .object (.cons _ (.number "1") (.cons _ (.object (.cons _ .null .nil) (.refl _))
    (.cons _ ha (.cons _ (.bool true) (.cons _ (.array (.cons (.array .nil) .nil)) .nil)))))
    (.swap _ _ _)

theorem partners_in_shuffledOrder :
    orderSample.Reordered shuffledOrder ∧ ∃ m k,
      infer orderSample "Order" ⟨true, 4⟩ = .ok m ∧ infer shuffledOrder "Order" ⟨true, 4⟩ = .ok k ∧
      k.typeNames = ["Order", "OrderAB", "OrderA", "OrderAItems", "OrderAItemsB"] ∧
      ∃ partner : Model → Model, (m.preorder.map partner).Perm k.preorder ∧
        ∀ n ∈ m.preorder, n.fields.Perm (partner n).fields ∧
          (n.children.map partner).Perm (partner n).children := by
  have h : infer orderSample "Order" ⟨true, 4⟩ = .ok (sampleOutline true "Order" orderSample) := rfl
  have hk : infer shuffledOrder "Order" ⟨true, 4⟩ =
      .ok (sampleOutline true "Order" shuffledOrder) := rfl
  obtain ⟨partner, hperm, hpartner⟩ :=
    (key_order_immaterial reordered_shuffledOrder "Order" ⟨true, 4⟩).2 _ _ h hk
  refine ⟨reordered_shuffledOrder, _, _, h, hk, rfl, partner, hperm, fun n hn => ?_⟩
  obtain ⟨-, -, hfields, -, hchildren⟩ := hpartner n hn
  exact ⟨hfields, hchildren⟩

end Inference

end SampleModels
