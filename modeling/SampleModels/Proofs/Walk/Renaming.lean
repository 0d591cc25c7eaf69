import SampleModels.Proofs.Walk.Visits

/-!
# Walks under other names and at other places

From the name and the place that it starts at a walk only derives further ones. A change of names
and places that commutes with these derivations therefore takes the outline and the visits of a walk
to those of the walk that starts at the changed name and place.
-/

namespace SampleModels

def ElementType.mapName (names : String → String) : ElementType → ElementType
  | .nested name => .nested (names name)
  | element => element

def FieldType.mapName (names : String → String) : FieldType → FieldType
  | .nested name => .nested (names name)
  | .list element => .list (element.mapName names)
  | type => type

def Field.mapName (names : String → String) (field : Field) : Field :=
  ⟨field.name, field.type.mapName names⟩

def Statement.mapName (names : String → String) : Statement → Statement
  | .nested key typeName => .nested key (names typeName)
  | .list key element => .list key (element.mapName names)
  | s => s

theorem Field.statement?_mapName (names : String → String) (field : Field) :
    (field.mapName names).statement? = field.statement?.map (Statement.mapName names) := by
  obtain ⟨key, type⟩ := field
  cases type <;> rfl

namespace Model

mutual

/-- The tree with other type names, in models, fields and statements, and other locations. -/
def map (names : String → String) (places : Pointer → Pointer) : Model → Model
  | ⟨name, location, fields, initializer, children⟩ =>
    ⟨names name, places location, fields.map (Field.mapName names),
      initializer.map (Statement.mapName names), mapAll names places children⟩

def mapAll (names : String → String) (places : Pointer → Pointer) : List Model → List Model
  | [] => []
  | m :: rest => m.map names places :: mapAll names places rest

end

variable (names : String → String) (places : Pointer → Pointer)

mutual

theorem preorder_map : ∀ m : Model,
    (m.map names places).preorder = m.preorder.map (map names places)
  | ⟨name, location, fields, initializer, children⟩ => by
    rw [map, preorder, preorder, List.map_cons, map, preorderAll_mapAll children]

theorem preorderAll_mapAll : ∀ ms : List Model,
    preorderAll (mapAll names places ms) = (preorderAll ms).map (map names places)
  | [] => rfl
  | m :: rest => by
    rw [mapAll, preorderAll, preorderAll, List.map_append, preorder_map m, preorderAll_mapAll rest]

end

end Model

namespace Inference

/-- The changes commute with the derivation of names and places from others. -/
structure Commutes (names : String → String) (places : Pointer → Pointer) : Prop where
  nested : ∀ parent key, names (nestedName parent key) = nestedName (names parent) key
  child : ∀ location key, places (location.child key) = (places location).child key
  element : ∀ location n, places (location.element n) = (places location).element n

def Visit.map (names : String → String) (places : Pointer → Pointer) (v : Visit) : Visit :=
  ⟨names v.parent, v.key, places v.location, v.entered⟩

theorem fieldType_names (inspect : Bool) (names : String → String) (typeName : String)
    (value : Json) :
    fieldType inspect (names typeName) value =
      (fieldType inspect typeName value).mapName names := by
  cases value with
  | array items =>
    cases items with
    | nil => rfl
    | cons first rest => cases first <;> cases inspect <;> rfl
  | _ => rfl

namespace Commutes

variable {names : String → String} {places : Pointer → Pointer}

theorem entered?_map (h : Commutes names places) (inspect : Bool) (location : Pointer)
    (value : Json) :
    entered? inspect (places location) value =
      (entered? inspect location value).map fun (place, below) => (places place, below) := by
  cases value with
  | array items =>
    cases items with
    | nil => rfl
    | cons first rest =>
      cases first <;> cases inspect <;> simp [entered?, h.element]
  | _ => rfl

theorem fieldsOf_map (h : Commutes names places) (inspect : Bool) (name : String)
    (members : List (String × Json)) :
    fieldsOf inspect (names name) members =
      (fieldsOf inspect name members).map (Field.mapName names) := by
  simp [fieldsOf, Field.mapName, ← h.nested, fieldType_names]

theorem modelOf_map (h : Commutes names places) (inspect : Bool) (name : String)
    (location : Pointer) (members : List (String × Json)) (children : List Model) :
    modelOf inspect (names name) (places location) members (Model.mapAll names places children) =
      (modelOf inspect name location members children).map names places := by
  have hs : Field.statement? ∘ Field.mapName names =
      fun field => field.statement?.map (Statement.mapName names) :=
    funext (Field.statement?_mapName names)
  rw [modelOf, h.fieldsOf_map, List.filterMap_map, hs, modelOf, Model.map, List.map_filterMap]

theorem inner_map (h : Commutes names places) (inspect : Bool) (name : String) (location : Pointer)
    (members : List (String × Json)) :
    inner inspect (names name) (places location) members =
      Model.mapAll names places (inner inspect name location members) := by
  induction members using members_induction inspect generalizing name location with
  | nil => rfl
  | cons key value rest inside ih =>
    rw [inner_cons, innerAt_eq, inner_cons, innerAt_eq, ← h.nested, ← h.child, h.entered?_map, ih]
    cases he : entered? inspect (location.child key) value with
    | none => rfl
    | some entry =>
      obtain ⟨place, below⟩ := entry
      have hchild : outline inspect (names (nestedName name key)) (places place) below =
          (outline inspect (nestedName name key) place below).map names places := by
        rw [outline, inside _ _ _ he, h.modelOf_map, outline]
      simp [hchild, Model.mapAll]

theorem outline_map (h : Commutes names places) (inspect : Bool) (name : String)
    (location : Pointer) (members : List (String × Json)) :
    outline inspect (names name) (places location) members =
      (outline inspect name location members).map names places := by
  rw [outline, h.inner_map, h.modelOf_map, outline]

theorem visits_map (h : Commutes names places) (inspect : Bool) (name : String) (location : Pointer)
    (members : List (String × Json)) :
    visits inspect (names name) (places location) members =
      (visits inspect name location members).map (Visit.map names places) := by
  induction members using members_induction inspect generalizing name location with
  | nil => rfl
  | cons key value rest inside ih =>
    rw [visits_cons, visitsAt_eq, visits_cons, visitsAt_eq, ← h.nested, ← h.child,
      h.entered?_map, ih]
    cases he : entered? inspect (location.child key) value with
    | none => rfl
    | some entry =>
      obtain ⟨place, below⟩ := entry
      simp [Visit.map, inside _ _ _ he]

theorem typeName_map (h : Commutes names places) (v : Visit) :
    (v.map names places).typeName = names v.typeName := (h.nested _ _).symm

theorem claim?_map (h : Commutes names places) (v : Visit) :
    (v.map names places).claim? =
      v.claim?.map fun (name, location) => (names name, places location) := by
  unfold Visit.claim?
  rw [h.typeName_map]
  cases he : v.entered <;> simp [Visit.map, he]

end Commutes

end Inference

end SampleModels
