import SampleModels.Pointer

/-!
# Models

A model is a class to be declared: its fields, the statements of its initializer, and the models
of the objects inside it. `typeNames` lists a model and those below it in the order in which they
are declared.
-/

namespace SampleModels

/-- The kinds of value that a typed field with a default can hold. -/
inductive Scalar where
  | string
  | number
  | boolean
deriving DecidableEq

namespace Scalar

/-- The kind of a scalar value; null, arrays and objects are none. -/
@[simp] def ofJson? : Json → Option Scalar
  | .string _ => some .string
  | .number _ => some .number
  | .bool _ => some .boolean
  | .null | .array _ | .object _ => none

def typeName : Scalar → String
  | .string => "String"
  | .number => "NSNumber"
  | .boolean => "Bool"

/-- The accessor that reads such a value from a JSON value. -/
def accessor : Scalar → String
  | .string => "string"
  | .number => "number"
  | .boolean => "bool"

/-- The literal for a value that is missing or of another kind. -/
def defaultLiteral : Scalar → String
  | .string => "\"\""
  | .number => "0"
  | .boolean => "false"

end Scalar

def rawJsonType : String := "JSONValue"

def dynamicType : String := "AnyObject"

/-- The type of a list's elements. -/
inductive ElementType where
  | scalar (kind : Scalar)
  | nested (name : String)
  | rawJson
  | dynamic
deriving DecidableEq

def ElementType.typeName : ElementType → String
  | .scalar kind => kind.typeName
  | .nested name => name
  | .rawJson => rawJsonType
  | .dynamic => dynamicType

/-- The type of a field. -/
inductive FieldType where
  | scalar (kind : Scalar)
  | rawJson
  | dynamic
  | nested (name : String)
  | list (element : ElementType)
deriving DecidableEq

def FieldType.declaration : FieldType → String
  | .scalar kind => kind.typeName
  | .rawJson => rawJsonType
  | .dynamic => dynamicType
  | .nested name => name
  | .list element => "[" ++ element.typeName ++ "]"

/-- A field of a model. -/
structure Field where
  name : String
  type : FieldType
deriving DecidableEq

/-- A statement of an initializer. -/
inductive Statement where
  /-- Take the value if it is of the kind, and the default otherwise. -/
  | scalar (key : String) (kind : Scalar)
  /-- Keep the JSON value. -/
  | passThrough (key : String)
  /-- Build the nested model from the value. -/
  | nested (key typeName : String)
  /-- Fill a list, element by element. -/
  | list (key : String) (element : ElementType)
  /-- Note that the sample is an array. -/
  | arrayRoot
  /-- Note that the sample is neither an object nor an array. -/
  | scalarRoot
deriving DecidableEq

/-- A class to be declared. -/
structure Model where
  typeName : String
  /-- Where in the sample the shape was found. -/
  location : Pointer
  /-- In the order of the keys. -/
  fields : List Field
  initializer : List Statement
  /-- In the order of the fields they were found in. -/
  children : List Model

namespace Model

def field? (m : Model) (name : String) : Option Field := m.fields.find? fun f => f.name == name

def child? (m : Model) (typeName : String) : Option Model :=
  m.children.find? fun c => c.typeName == typeName

mutual

/-- The model and those below it, each before its children. -/
def preorder : Model → List Model
  | ⟨name, location, fields, initializer, children⟩ =>
    ⟨name, location, fields, initializer, children⟩ :: preorderAll children

def preorderAll : List Model → List Model
  | [] => []
  | m :: rest => m.preorder ++ preorderAll rest

end

def typeNames (m : Model) : List String := m.preorder.map Model.typeName

mutual

def descendantCount : Model → Nat
  | ⟨_, _, _, _, children⟩ => countAll children

/-- The number of models in a list and below them. -/
def countAll : List Model → Nat
  | [] => 0
  | m :: rest => 1 + m.descendantCount + countAll rest

end

theorem preorder_eq (m : Model) : m.preorder = m :: preorderAll m.children := by
  cases m; rw [preorder]

mutual

theorem length_preorder : ∀ m : Model, m.preorder.length = 1 + m.descendantCount
  | ⟨_, _, _, _, children⟩ => by
    rw [preorder, descendantCount, List.length_cons, length_preorderAll children, Nat.add_comm]

theorem length_preorderAll : ∀ ms : List Model, (preorderAll ms).length = countAll ms
  | [] => by rw [preorderAll, countAll]; rfl
  | m :: rest => by
    rw [preorderAll, countAll, List.length_append, length_preorder m, length_preorderAll rest]

end

end Model

end SampleModels
