import SampleModels.Association
import SampleModels.Proofs.DocumentOrder
import SampleModels.Proofs.PointerText
import SampleModels.Proofs.Walk.Outcome

/-!
# The locations of inferred models

Resolving the location of a model in the sample leads to the object that the model was made of,
and no two models have one location. The first fact follows each entry of the walk down the
document; the second holds of all places of the document.
-/

namespace SampleModels

namespace Json

theorem resolve?_append (value : Json) (tokens more : List String) :
    value.resolve? (tokens ++ more) = (value.resolve? tokens).bind fun below =>
      below.resolve? more := by
  induction tokens generalizing value with
  | nil => rfl
  | cons token rest ih =>
    simp only [List.cons_append, resolve?]
    cases value.child? token with
    | none => rfl
    | some below => exact ih below

theorem wellFormed_of_mem {members : List (String × Json)} (h : WellFormedMembers members)
    {key : String} {value : Json} (hm : (key, value) ∈ members) : value.WellFormed := by
  induction members with
  | nil => cases hm
  | cons member rest ih =>
    obtain ⟨k, v⟩ := member
    rw [WellFormedMembers] at h
    rcases List.mem_cons.mp hm with heq | hm
    · cases heq
      exact h.1
    · exact ih h.2 hm

theorem element?_zero (items : List Json) :
    element? items (Segment.token (.index 0)) = items[0]? := by
  have h : (toString 0).toNat? = some 0 := by
    simp [String.toNat?, String.Slice.toNat?, String.Slice.isNat,
      String.Slice.forIn_eq_forIn_toList, String.Slice.foldl_eq_foldl_toList]
  simp only [element?, Segment.token, h, Option.bind_some, if_true]

end Json

namespace Pointer

theorem resolve?_push (p : Pointer) (segment : Segment) (document : Json) :
    (p.push segment).resolve? document =
      (p.resolve? document).bind fun below => below.child? segment.token := by
  rw [resolve?, resolve?, push, Json.resolve?_append]
  cases document.resolve? p.tokens with
  | none => rfl
  | some below =>
    simp only [Option.bind_some, Json.resolve?]
    cases below.child? segment.token <;> rfl

end Pointer

namespace Inference

/-- The object stands in the document at the place it was entered at. -/
def Entry.Found (document : Json) (o : Entry) : Prop :=
  o.location.resolve? document = some (.object o.members) ∧ (Json.object o.members).WellFormed

theorem wellFormed_of_entered {inspect : Bool} {location place : Pointer} {value : Json}
    {below : List (String × Json)} (hw : value.WellFormed)
    (h : entered? inspect location value = some (place, below)) :
    (Json.object below).WellFormed := by
  rcases entered?_cases h with ⟨rfl, -⟩ | ⟨rest, -, rfl, -⟩
  · exact hw
  · rw [Json.WellFormed, Json.WellFormedItems] at hw
    exact hw.1

theorem Entry.Found.resolve?_child {document : Json} {o : Entry} (h : o.Found document)
    {key : String} {value : Json} (hm : (key, value) ∈ o.members) :
    (o.location.child key).resolve? document = some value ∧ value.WellFormed := by
  obtain ⟨hr, hw⟩ := h
  rw [Json.WellFormed] at hw
  have hl : o.members.lookup key = some value :=
    (Association.lookup_eq_some_iff_mem hw.1 key value).mpr hm
  refine ⟨?_, Json.wellFormed_of_mem hw.2 hm⟩
  rw [Pointer.child, Pointer.resolve?_push, hr]
  exact hl

theorem resolve?_of_entered {inspect : Bool} {document value : Json} {location place : Pointer}
    {below : List (String × Json)} (hl : location.resolve? document = some value)
    (h : entered? inspect location value = some (place, below)) :
    place.resolve? document = some (.object below) := by
  rcases entered?_cases h with ⟨rfl, rfl⟩ | ⟨rest, -, rfl, rfl⟩
  · exact hl
  · rw [Pointer.element, Pointer.resolve?_push, hl]
    exact Json.element?_zero _

theorem Entry.Found.enters {inspect : Bool} {document : Json} {o inside : Entry}
    (h : o.Found document) (he : Entry.Enters inspect o inside) : inside.Found document := by
  obtain ⟨key, value, hm, -, he⟩ := he
  obtain ⟨hkey, hw⟩ := h.resolve?_child hm
  exact ⟨resolve?_of_entered hkey he, wellFormed_of_entered hw he⟩

theorem Entry.Found.reaches {inspect : Bool} {document : Json} {o reached : Entry}
    (h : o.Found document) (hr : Entry.Reaches inspect o reached) : reached.Found document := by
  induction hr with
  | refl => exact h
  | tail _ he ih => exact ih.enters he

/-- The model lists the members of the object that it stands for. -/
def Describes (inspect : Bool) (n : Model) (members : List (String × Json)) : Prop :=
  n.fields.map Field.name = members.map Prod.fst ∧ (n.fields.map Field.name).Nodup ∧
    n.fields.map Field.type = members.map fun (key, value) =>
      fieldType inspect (nestedName n.typeName key) value

theorem describes_model (inspect : Bool) {o : Entry} (hw : (Json.object o.members).WellFormed) :
    Describes inspect (o.model inspect) o.members := by
  have hnames : (o.model inspect).fields.map Field.name = o.members.map Prod.fst := by
    simp [Entry.model, outline, modelOf, fieldsOf, Function.comp_def]
  refine ⟨hnames, ?_, ?_⟩
  · rw [Json.WellFormed] at hw
    rw [hnames]
    exact hw.1
  · simp [Entry.model, outline, modelOf, fieldsOf, Function.comp_def]

end Inference

end SampleModels
