import SampleModels.Inference
import SampleModels.Proofs.IssuedNames

/-!
# The outline of a sample

What the walk makes of a sample when no fault stops it, without the names issued and the events
logged on the way. An object is entered at a member when the member's value is that object, or an
inspected array whose first element is that object. Every recursion of the walk goes through
`entered?`, and so does the induction over the members of an object.
-/

namespace SampleModels

/-- The statement that fills a field; nothing fills a field of unknown type. -/
def Field.statement? (field : Field) : Option Statement :=
  match field.type with
  | .scalar kind => some (.scalar field.name kind)
  | .rawJson => some (.passThrough field.name)
  | .dynamic => none
  | .nested typeName => some (.nested field.name typeName)
  | .list element => some (.list field.name element)

namespace Inference

/-- The object entered at a member that stands at `location`: its place and its members. -/
def entered? (inspect : Bool) (location : Pointer) : Json → Option (Pointer × List (String × Json))
  | .object below => some (location, below)
  | .array (.object below :: _) => if inspect then some (location.element 0, below) else none
  | _ => none

def elementType (typeName : String) (first : Json) : ElementType :=
  match Scalar.ofJson? first, first with
  | some kind, _ => .scalar kind
  | none, .array _ => .rawJson
  | none, .object _ => .nested typeName
  | none, _ => .dynamic

def fieldType (inspect : Bool) (typeName : String) (value : Json) : FieldType :=
  match Scalar.ofJson? value, value with
  | some kind, _ => .scalar kind
  | none, .array [] => .rawJson
  | none, .array (first :: _) => if inspect then .list (elementType typeName first) else .rawJson
  | none, .object _ => .nested typeName
  | none, _ => .dynamic

def fieldsOf (inspect : Bool) (name : String) (members : List (String × Json)) : List Field :=
  members.map fun (key, value) => ⟨key, fieldType inspect (nestedName name key) value⟩

/-- The model of an object with these members and these models inside it. -/
def modelOf (inspect : Bool) (name : String) (location : Pointer) (members : List (String × Json))
    (children : List Model) : Model :=
  ⟨name, location, fieldsOf inspect name members,
    (fieldsOf inspect name members).filterMap Field.statement?, children⟩

mutual

/-- The models of the objects entered at the members of the object at `location`. -/
def inner (inspect : Bool) (name : String) (location : Pointer) :
    List (String × Json) → List Model
  | [] => []
  | (key, value) :: rest =>
    (innerAt inspect (nestedName name key) (location.child key) value).toList ++
      inner inspect name location rest

/-- The model of the object entered at a member, whose own place is `location`. -/
def innerAt (inspect : Bool) (name : String) (location : Pointer) : Json → Option Model
  | .object below => some (modelOf inspect name location below (inner inspect name location below))
  | .array (.object below :: _) =>
    if inspect then
      some (modelOf inspect name (location.element 0) below
        (inner inspect name (location.element 0) below))
    else none
  | _ => none

end

def outline (inspect : Bool) (name : String) (location : Pointer)
    (members : List (String × Json)) : Model :=
  modelOf inspect name location members (inner inspect name location members)

def sampleOutline (inspect : Bool) (name : String) : Json → Model
  | .object members => outline inspect name .root members
  | .array _ => ⟨name, .root, [], [.arrayRoot], []⟩
  | _ => ⟨name, .root, [], [.scalarRoot], []⟩

theorem innerAt_eq (inspect : Bool) (name : String) (location : Pointer) (value : Json) :
    innerAt inspect name location value =
      (entered? inspect location value).map fun (place, below) =>
        outline inspect name place below := by
  cases value with
  | object below => rfl
  | array items =>
    cases items with
    | nil => rfl
    | cons first rest => cases first <;> cases inspect <;> rfl
  | _ => rfl

theorem inner_cons (inspect : Bool) (name key : String) (location : Pointer) (value : Json)
    (rest : List (String × Json)) :
    inner inspect name location ((key, value) :: rest) =
      (innerAt inspect (nestedName name key) (location.child key) value).toList ++
        inner inspect name location rest := by
  rw [inner]

theorem entered?_cases {inspect : Bool} {location place : Pointer} {value : Json}
    {below : List (String × Json)} (h : entered? inspect location value = some (place, below)) :
    (value = .object below ∧ place = location) ∨
      ∃ rest, inspect = true ∧ value = .array (.object below :: rest) ∧
        place = location.element 0 := by
  unfold entered? at h
  split at h
  · cases h
    exact .inl ⟨rfl, rfl⟩
  · next rest =>
    cases inspect
    · cases h
    · cases h
      exact .inr ⟨rest, rfl, rfl, rfl⟩
  · cases h

theorem sizeOf_lt_of_entered {inspect : Bool} {location place : Pointer} {value : Json}
    {below : List (String × Json)} (h : entered? inspect location value = some (place, below)) :
    sizeOf below < sizeOf value := by
  rcases entered?_cases h with ⟨rfl, -⟩ | ⟨rest, -, rfl, -⟩
  · simp only [Json.object.sizeOf_spec]
    omega
  · simp only [Json.array.sizeOf_spec, List.cons.sizeOf_spec, Json.object.sizeOf_spec]
    omega

/-- Induction along the walk: what holds of the members of every object entered at a member and of
the members after it holds with the member in front. -/
theorem members_induction (inspect : Bool) {motive : List (String × Json) → Prop}
    (nil : motive [])
    (cons : ∀ key value rest,
      (∀ location place below,
        entered? inspect location value = some (place, below) → motive below) →
      motive rest → motive ((key, value) :: rest)) :
    ∀ members, motive members
  | [] => nil
  | (key, value) :: rest =>
    cons key value rest
      (fun _ _ below h =>
        have := sizeOf_lt_of_entered h
        members_induction inspect nil cons below)
      (members_induction inspect nil cons rest)
termination_by members => sizeOf members
decreasing_by
  · simp only [List.cons.sizeOf_spec, Prod.mk.sizeOf_spec]
    omega
  · simp only [List.cons.sizeOf_spec, Prod.mk.sizeOf_spec]
    omega

end Inference

end SampleModels
