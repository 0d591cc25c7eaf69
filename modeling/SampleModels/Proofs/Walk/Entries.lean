import Mathlib.Logic.Relation
import SampleModels.Proofs.Walk.Visits

/-!
# The objects entered on a walk

Every model of an outline is the outline of one object that the walk enters, and a property of
those objects is proved along the chain of entries that leads from the root to them.
-/

namespace SampleModels.Inference

/-- An object entered on a walk: the name of its model, its place and its members. -/
structure Entry where
  name : String
  location : Pointer
  members : List (String × Json)

namespace Entry

def model (inspect : Bool) (o : Entry) : Model := outline inspect o.name o.location o.members

/-- The second object is entered at a member of the first. -/
def Enters (inspect : Bool) (o inside : Entry) : Prop :=
  ∃ key value, (key, value) ∈ o.members ∧ inside.name = nestedName o.name key ∧
    entered? inspect (o.location.child key) value = some (inside.location, inside.members)

abbrev Reaches (inspect : Bool) : Entry → Entry → Prop := Relation.ReflTransGen (Enters inspect)

end Entry

/-- Induction along entries: what holds of the members of an object if it holds of the members of
all objects entered at them holds of the members of every object. -/
theorem entered_induction (inspect : Bool) {motive : List (String × Json) → Prop}
    (step : ∀ members, (∀ key value, (key, value) ∈ members → ∀ location place below,
      entered? inspect location value = some (place, below) → motive below) → motive members)
    (members : List (String × Json)) : motive members := by
  refine step members ?_
  induction members using members_induction inspect with
  | nil =>
    intro key value hm
    cases hm
  | cons key value rest inside ih =>
    intro k v hm location place below he
    rcases List.mem_cons.mp hm with heq | hm
    · cases heq
      exact step below (inside location place below he)
    · exact ih k v hm location place below he

theorem exists_entry_of_mem_inner {inspect : Bool} {name : String} {location : Pointer}
    {members : List (String × Json)} {n : Model}
    (hn : n ∈ Model.preorderAll (inner inspect name location members)) :
    ∃ first o, Entry.Enters inspect ⟨name, location, members⟩ first ∧
      Entry.Reaches inspect first o ∧ n = o.model inspect := by
  induction members using members_induction inspect generalizing name location n with
  | nil =>
    rw [inner, Model.preorderAll] at hn
    cases hn
  | cons key value rest inside ih =>
    have tail : n ∈ Model.preorderAll (inner inspect name location rest) →
        ∃ first o, Entry.Enters inspect ⟨name, location, (key, value) :: rest⟩ first ∧
          Entry.Reaches inspect first o ∧ n = o.model inspect := by
      intro ht
      obtain ⟨first, o, ⟨k, v, hm, he⟩, hr⟩ := ih ht
      exact ⟨first, o, ⟨k, v, List.mem_cons_of_mem _ hm, he⟩, hr⟩
    rw [inner_cons, innerAt_eq] at hn
    cases h : entered? inspect (location.child key) value with
    | none => exact tail (by simpa [h] using hn)
    | some entry =>
      obtain ⟨place, below⟩ := entry
      have enter : Entry.Enters inspect ⟨name, location, (key, value) :: rest⟩
          ⟨nestedName name key, place, below⟩ := ⟨key, value, List.mem_cons_self, rfl, h⟩
      simp only [h, Option.map_some, Option.toList_some, Model.preorderAll, Model.preorder_eq,
        List.cons_append, List.mem_cons, List.mem_append] at hn
      rcases hn with rfl | hn | hn
      · exact ⟨_, _, enter, .refl, rfl⟩
      · obtain ⟨first, o, hfirst, hr, rfl⟩ := inside _ _ _ h hn
        exact ⟨_, o, enter, .head hfirst hr, rfl⟩
      · exact tail hn

/-- Every model of an outline is that of an object reached from the one outlined. -/
theorem exists_entry_of_mem_preorder {inspect : Bool} {o : Entry} {n : Model}
    (hn : n ∈ (o.model inspect).preorder) :
    ∃ reached, Entry.Reaches inspect o reached ∧ n = reached.model inspect := by
  rw [Model.preorder_eq, List.mem_cons] at hn
  rcases hn with rfl | hn
  · exact ⟨o, .refl, rfl⟩
  · obtain ⟨first, reached, hfirst, hr, rfl⟩ := exists_entry_of_mem_inner hn
    exact ⟨reached, .head hfirst hr, rfl⟩

theorem inner_eq_flatMap (inspect : Bool) (name : String) (location : Pointer)
    (members : List (String × Json)) :
    inner inspect name location members = members.flatMap fun (key, value) =>
      (innerAt inspect (nestedName name key) (location.child key) value).toList := by
  induction members with
  | nil => rw [inner]; rfl
  | cons member rest ih => rw [inner_cons, ih]; rfl

theorem mem_children_of_enters {inspect : Bool} {o inside : Entry}
    (h : Entry.Enters inspect o inside) : inside.model inspect ∈ (o.model inspect).children := by
  obtain ⟨key, value, hm, hname, he⟩ := h
  have hchildren : (o.model inspect).children = inner inspect o.name o.location o.members := rfl
  rw [hchildren, inner_eq_flatMap, List.mem_flatMap]
  refine ⟨(key, value), hm, ?_⟩
  simp [innerAt_eq, he, Entry.model, hname]

theorem visits_eq_flatMap (inspect : Bool) (name : String) (location : Pointer)
    (members : List (String × Json)) :
    visits inspect name location members = members.flatMap fun (key, value) =>
      ⟨name, key, location.child key, (entered? inspect (location.child key) value).isSome⟩ ::
        visitsAt inspect (nestedName name key) (location.child key) value := by
  induction members with
  | nil => rw [visits]; rfl
  | cons member rest ih => rw [visits_cons, ih]; rfl

/-- The visit of a member of the object. -/
def Entry.visit (inspect : Bool) (o : Entry) (key : String) (value : Json) : Visit :=
  ⟨o.name, key, o.location.child key, (entered? inspect (o.location.child key) value).isSome⟩

theorem exists_entry_of_mem_visits {inspect : Bool} {name : String} {location : Pointer}
    {members : List (String × Json)} {v : Visit} (hv : v ∈ visits inspect name location members) :
    ∃ o key value, Entry.Reaches inspect ⟨name, location, members⟩ o ∧
      (key, value) ∈ o.members ∧ v = o.visit inspect key value := by
  induction members using entered_induction inspect generalizing name location with
  | step members inside =>
    rw [visits_eq_flatMap, List.mem_flatMap] at hv
    obtain ⟨⟨key, value⟩, hm, hv⟩ := hv
    rcases List.mem_cons.mp hv with rfl | hv
    · exact ⟨_, key, value, .refl, hm, rfl⟩
    · rw [visitsAt_eq] at hv
      cases h : entered? inspect (location.child key) value with
      | none =>
        rw [h] at hv
        cases hv
      | some entry =>
        obtain ⟨place, below⟩ := entry
        rw [h] at hv
        obtain ⟨o, k, w, hr, hk, rfl⟩ := inside key value hm _ _ _ h hv
        exact ⟨o, k, w, .head ⟨key, value, hm, rfl, h⟩ hr, hk, rfl⟩

theorem visits_subset_of_enters {inspect : Bool} {o inside : Entry}
    (h : Entry.Enters inspect o inside) :
    visits inspect inside.name inside.location inside.members ⊆
      visits inspect o.name o.location o.members := by
  obtain ⟨key, value, hm, hname, he⟩ := h
  intro v hv
  rw [visits_eq_flatMap inspect o.name, List.mem_flatMap]
  refine ⟨(key, value), hm, List.mem_cons_of_mem _ ?_⟩
  rw [visitsAt_eq, he, ← hname]
  exact hv

theorem visits_subset_of_reaches {inspect : Bool} {o reached : Entry}
    (h : Entry.Reaches inspect o reached) :
    visits inspect reached.name reached.location reached.members ⊆
      visits inspect o.name o.location o.members := by
  induction h with
  | refl => exact List.Subset.refl _
  | tail _ he ih => exact List.Subset.trans (visits_subset_of_enters he) ih

/-- A model of a sample is that of a reached object, or the root of a sample that is none. -/
theorem mem_preorder_cases {inspect : Bool} {name : String} {document : Json} {n : Model}
    (hn : n ∈ (sampleOutline inspect name document).preorder) :
    (∃ members o, document = .object members ∧ Entry.Reaches inspect ⟨name, .root, members⟩ o ∧
      n = o.model inspect) ∨
      ((∀ members, document ≠ .object members) ∧
        ∃ note, (note = .arrayRoot ∨ note = .scalarRoot) ∧ n = ⟨name, .root, [], [note], []⟩) := by
  cases document with
  | object members =>
    obtain ⟨o, hr, rfl⟩ := exists_entry_of_mem_preorder (o := ⟨name, .root, members⟩) hn
    exact .inl ⟨members, o, rfl, hr, rfl⟩
  | array items =>
    refine .inr ⟨fun _ h => (nomatch h), .arrayRoot, .inl rfl, ?_⟩
    simpa [sampleOutline, Model.preorder, Model.preorderAll] using hn
  | _ =>
    refine .inr ⟨fun _ h => (nomatch h), .scalarRoot, .inr rfl, ?_⟩
    simpa [sampleOutline, Model.preorder, Model.preorderAll] using hn

end SampleModels.Inference
