import SampleModels.Proofs.ClassNames

/-!
# The visible shape of a sample

Two samples have the same shape when a walk cannot tell them apart. What scalars hold, the elements
of an array after its first, the inside of arrays in arrays and, without inspection, of all arrays
are no part of the shape. A shape decides how inference ends, and an inferred tree decides a shape.
-/

namespace SampleModels

namespace Json

mutual

/-- The values have the same shape as members of an object. -/
def SameMember (inspect : Bool) : Json → Json → Prop
  | .null, .null | .bool _, .bool _ | .number _, .number _ | .string _, .string _ => True
  | .object a, .object b => SameMembers inspect a b
  | .array a, .array b => inspect = false ∨ SameFirst inspect a b
  | _, _ => False

/-- Both lists are empty, or their first elements have the same shape. -/
def SameFirst (inspect : Bool) : List Json → List Json → Prop
  | [], [] => True
  | a :: _, b :: _ => SameElement inspect a b
  | _, _ => False

/-- The values have the same shape as the first elements of inspected arrays. -/
def SameElement (inspect : Bool) : Json → Json → Prop
  | .null, .null | .bool _, .bool _ | .number _, .number _ | .string _, .string _ => True
  | .array _, .array _ => True
  | .object a, .object b => SameMembers inspect a b
  | _, _ => False

/-- The same keys in the same order, with members of the same shape. -/
def SameMembers (inspect : Bool) : List (String × Json) → List (String × Json) → Prop
  | [], [] => True
  | (key, a) :: rest, (k, b) :: more =>
    key = k ∧ SameMember inspect a b ∧ SameMembers inspect rest more
  | _, _ => False

end

/-- The values have the same shape as whole samples. -/
def SameSample (inspect : Bool) : Json → Json → Prop
  | .object a, .object b => SameMembers inspect a b
  | .array _, .array _ => True
  | .object _, _ | .array _, _ | _, .object _ | _, .array _ => False
  | _, _ => True

end Json

namespace Inference

open Json

/-- The entered objects stand at one place and have the same shape. -/
def SameEntry (inspect : Bool) (e f : Pointer × List (String × Json)) : Prop :=
  e.1 = f.1 ∧ SameMembers inspect e.2 f.2

private theorem entered?_array_false (location : Pointer) (items : List Json) :
    entered? false location (.array items) = none := by
  rcases items with _ | ⟨first, rest⟩
  · rfl
  · cases first <;> rfl

private theorem fieldType_array_false (name : String) (items : List Json) :
    fieldType false name (.array items) = .rawJson := by
  cases items <;> rfl

private theorem sameFirst_iff (name : String) (location : Pointer) (items more : List Json) :
    SameFirst true items more ↔
      fieldType true name (.array items) = fieldType true name (.array more) ∧
        Option.Rel (SameEntry true) (entered? true location (.array items))
          (entered? true location (.array more)) := by
  cases items with
  | nil =>
    cases more with
    | nil => simp [SameFirst, entered?]
    | cons b more => simp [SameFirst, fieldType]
  | cons a items =>
    cases more with
    | nil => simp [SameFirst, fieldType]
    | cons b more =>
      cases a <;> cases b <;>
        simp [SameFirst, SameElement, fieldType, elementType, entered?, SameEntry]

/-- The shape of a member consists of the type of its field and of the object entered at it. -/
theorem sameMember_iff (inspect : Bool) (name : String) (location : Pointer) (a b : Json) :
    SameMember inspect a b ↔
      fieldType inspect name a = fieldType inspect name b ∧
        Option.Rel (SameEntry inspect) (entered? inspect location a)
          (entered? inspect location b) := by
  cases a with
  | array items =>
    cases b with
    | array more =>
      cases inspect with
      | true => simpa [SameMember] using sameFirst_iff name location items more
      | false => simp [SameMember, fieldType_array_false, entered?_array_false]
    | _ => cases items <;> cases inspect <;> simp [SameMember, fieldType]
  | _ =>
    cases b with
    | array more => cases more <;> cases inspect <;> simp [SameMember, fieldType]
    | _ => simp [SameMember, fieldType, entered?, SameEntry]

private theorem sameEntry_cases {inspect : Bool} {e f : Option (Pointer × List (String × Json))}
    (h : Option.Rel (SameEntry inspect) e f) :
    (e = none ∧ f = none) ∨ ∃ place below other,
      e = some (place, below) ∧ f = some (place, other) ∧ SameMembers inspect below other := by
  rcases e with _ | ⟨place, below⟩ <;> rcases f with _ | ⟨there, other⟩
  · exact .inl ⟨rfl, rfl⟩
  · cases h
  · cases h
  · rw [Option.rel_some_some] at h
    obtain ⟨rfl, h⟩ := h
    exact .inr ⟨place, below, other, rfl, rfl, h⟩

/-- A walk finds the same at two objects of one shape. -/
theorem eq_of_sameMembers {inspect : Bool} {a b : List (String × Json)}
    (h : SameMembers inspect a b) (name : String) (location : Pointer) :
    fieldsOf inspect name a = fieldsOf inspect name b ∧
      inner inspect name location a = inner inspect name location b ∧
      visits inspect name location a = visits inspect name location b := by
  induction a using members_induction inspect generalizing b name location with
  | nil =>
    cases b with
    | nil => exact ⟨rfl, rfl, rfl⟩
    | cons member more => simp [SameMembers] at h
  | cons key value rest inside ih =>
    rcases b with _ | ⟨⟨k, other⟩, more⟩
    · simp [SameMembers] at h
    · rw [SameMembers] at h
      obtain ⟨rfl, hm, hrest⟩ := h
      obtain ⟨htype, hentry⟩ :=
        (sameMember_iff inspect (nestedName name key) (location.child key) _ _).mp hm
      obtain ⟨hf, hi, hv⟩ := ih hrest name location
      have hfields : fieldsOf inspect name ((key, value) :: rest) =
          fieldsOf inspect name ((key, other) :: more) := by
        simp only [fieldsOf, List.map_cons, htype] at hf ⊢
        rw [hf]
      refine ⟨hfields, ?_⟩
      rw [inner_cons, inner_cons, visits_cons, visits_cons, innerAt_eq, innerAt_eq, visitsAt_eq,
        visitsAt_eq, hi, hv]
      rcases sameEntry_cases hentry with ⟨hnone, hnone'⟩ | ⟨place, below, under, hsome, hsome', hs⟩
      · simp [hnone, hnone']
      · obtain ⟨hf, hi, hv⟩ := inside _ _ _ hsome hs (nestedName name key) place
        simp [hsome, hsome', outline, modelOf, hf, hi, hv]

private theorem entered?_isSome_eq {inspect : Bool} {name : String} {a b : Json}
    (h : fieldType inspect name a = fieldType inspect name b) (location : Pointer) :
    (entered? inspect location a).isSome = (entered? inspect location b).isSome := by
  have ha := className?_fieldType inspect name location a
  rw [h, className?_fieldType inspect name location b] at ha
  simpa using congrArg Option.isSome ha.symm

/-- Objects whose fields and models inside are the same have the same shape: the fields tell where a
model stands inside, so the lists of models agree one by one. -/
theorem sameMembers_of_eq {inspect : Bool} {name : String} {location : Pointer}
    {a b : List (String × Json)} (hf : fieldsOf inspect name a = fieldsOf inspect name b)
    (hi : inner inspect name location a = inner inspect name location b) :
    SameMembers inspect a b := by
  induction a using members_induction inspect generalizing b name location with
  | nil =>
    cases b with
    | nil => rw [SameMembers]; trivial
    | cons member more => cases hf
  | cons key value rest inside ih =>
    rcases b with _ | ⟨⟨k, other⟩, more⟩
    · cases hf
    · simp only [fieldsOf, List.map_cons, List.cons.injEq, Field.mk.injEq] at hf
      obtain ⟨⟨rfl, htype⟩, hf⟩ := hf
      rw [SameMembers, sameMember_iff inspect (nestedName name key) (location.child key)]
      rw [inner_cons, inner_cons, innerAt_eq, innerAt_eq] at hi
      have hsome := entered?_isSome_eq htype (location.child key)
      cases he : entered? inspect (location.child key) value with
      | none =>
        have hnone : entered? inspect (location.child key) other = none := by
          rw [he] at hsome
          simpa using hsome.symm
        rw [he, hnone] at hi
        rw [hnone]
        exact ⟨rfl, ⟨htype, .none⟩, ih hf (by simpa using hi)⟩
      | some entry =>
        rw [he, Option.isSome_some, eq_comm, Option.isSome_iff_exists] at hsome
        obtain ⟨entry', he'⟩ := hsome
        rw [he, he'] at hi
        rw [he']
        obtain ⟨place, below⟩ := entry
        obtain ⟨place', below'⟩ := entry'
        simp only [Option.map_some, Option.toList_some, List.cons_append, List.nil_append,
          List.cons.injEq, outline, modelOf, Model.mk.injEq, true_and] at hi
        obtain ⟨⟨rfl, hfb, -, hib⟩, hi⟩ := hi
        exact ⟨rfl, ⟨htype, .some ⟨rfl, inside _ _ _ he hfb hib⟩⟩, ih hf hi⟩

theorem eq_of_sameSample {inspect : Bool} {a b : Json} (h : SameSample inspect a b)
    (name : String) :
    sampleOutline inspect name a = sampleOutline inspect name b ∧
      sampleVisits inspect name a = sampleVisits inspect name b := by
  cases a with
  | object members =>
    cases b with
    | object more =>
      obtain ⟨hf, hi, hv⟩ := eq_of_sameMembers h name .root
      exact ⟨by rw [sampleOutline, sampleOutline, outline, outline, modelOf, modelOf, hf, hi], hv⟩
    | _ => exact h.elim
  | array items =>
    cases b with
    | array more => exact ⟨rfl, rfl⟩
    | _ => exact h.elim
  | _ =>
    cases b with
    | object more => exact h.elim
    | array more => exact h.elim
    | _ => exact ⟨rfl, rfl⟩

/-- A root that is no object has a note, and an object without fields has no statement. -/
private theorem sampleOutline_object_ne (inspect : Bool) (name : String)
    (members : List (String × Json)) (note : Statement) :
    sampleOutline inspect name (.object members) ≠ ⟨name, .root, [], [note], []⟩ := by
  intro h
  obtain ⟨-, -, hf, hs, -⟩ := Model.mk.inj h
  rw [hf] at hs
  cases hs

theorem sameSample_of_eq {inspect : Bool} {name : String} {a b : Json}
    (h : sampleOutline inspect name a = sampleOutline inspect name b) : SameSample inspect a b := by
  cases a with
  | object members =>
    cases b with
    | object more =>
      obtain ⟨-, -, hf, -, hi⟩ := Model.mk.inj h
      exact sameMembers_of_eq hf hi
    | _ => exact absurd h (sampleOutline_object_ne inspect name members _)
  | array items =>
    cases b with
    | object more => exact absurd h.symm (sampleOutline_object_ne inspect name more _)
    | array more => trivial
    | _ => cases h
  | _ =>
    cases b with
    | object more => exact absurd h.symm (sampleOutline_object_ne inspect name more _)
    | array more => cases h
    | _ => trivial

/-- Samples of one shape are inferred alike, down to the fault, and samples that give one tree have
one shape. -/
theorem infer_decided_by_shape (rootName : String) (settings : Settings) (a b : Json) :
    (SameSample settings.inspectArrays a b →
      infer a rootName settings = infer b rootName settings) ∧
    (∀ m, infer a rootName settings = .ok m → infer b rootName settings = .ok m →
      SameSample settings.inspectArrays a b) := by
  constructor
  · intro h
    obtain ⟨ho, hv⟩ := eq_of_sameSample h rootName
    rw [infer_eq, infer_eq, ho, hv]
  · intro m ha hb
    obtain ⟨-, -, rfl⟩ := (infer_eq_ok_iff a rootName settings m).mp ha
    obtain ⟨-, -, h⟩ := (infer_eq_ok_iff b rootName settings _).mp hb
    exact sameSample_of_eq h

/-- An order of the same shape as `orderSample`, and with other contents. -/
def otherOrder : Json :=
  .object [("id", .number "2"), ("aB", .object [("0", .null)]),
    ("a", .object [("items", .array [.object [("sku", .string ""), ("b", .object [])]])]),
    ("", .bool false), ("~/", .array [.array [.null], .bool true])]

theorem shape_of_otherOrder :
    SameSample true orderSample otherOrder ∧
      infer orderSample "Order" ⟨true, 4⟩ = infer otherOrder "Order" ⟨true, 4⟩ ∧
      ∃ m, infer orderSample "Order" ⟨false, 4⟩ = .ok m ∧
        infer otherOrder "Order" ⟨false, 4⟩ = .ok m ∧ SameSample false orderSample otherOrder := by
  have hs : SameSample true orderSample otherOrder := by
    simp [orderSample, otherOrder, SameSample, SameMembers, SameMember, SameFirst, SameElement]
  have h : infer orderSample "Order" ⟨false, 4⟩ = .ok (sampleOutline false "Order" orderSample) :=
    rfl
  have ho : infer otherOrder "Order" ⟨false, 4⟩ = .ok (sampleOutline false "Order" orderSample) :=
    rfl
  exact ⟨hs, (infer_decided_by_shape "Order" ⟨true, 4⟩ orderSample otherOrder).1 hs, _, h, ho,
    (infer_decided_by_shape "Order" ⟨false, 4⟩ orderSample otherOrder).2 _ h ho⟩

end Inference

end SampleModels
