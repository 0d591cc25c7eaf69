import SampleModels.IoError
import SampleModels.Json.Reader
import SampleModels.Pointer
import SampleModels.Text.Escape

/-!
# Faults

What a user can be told when no models come out. Pointers and type names are reported as they are;
keys and names that were refused are quoted.
-/

namespace SampleModels

/-- Why a key is refused. -/
inductive KeyDefect where
  | controlCharacter
  | empty
  | notIdentifier
deriving DecidableEq

def KeyDefect.message : KeyDefect → String
  | .controlCharacter => "key contains a control character"
  | .empty => "key is empty"
  | .notIdentifier => "derived type name is not an identifier"

def reportKey (path key reason : String) : String :=
  "invalid field key " ++ Text.quoted key ++ " at \"" ++ path ++ "\": " ++ reason

def reportTypeName (name : String) : String :=
  "invalid type name " ++ Text.quoted name ++ ": expected a non-empty identifier"

/-- The report of a type name that two shapes derive. -/
def reportCollision (typeName first second : String) : String :=
  "type name " ++ typeName ++ " derived twice: at \"" ++ first ++ "\" and at \"" ++ second ++ "\""

/-- Why no models come out. -/
inductive Fault where
  | io (error : IoError)
  | json (error : Json.ReadError)
  | invalidFieldKey (location : Pointer) (key : String) (defect : KeyDefect)
  | invalidTypeName (name : String)
  | typeNameCollision (typeName : String) (first second : Pointer)
deriving DecidableEq

def Fault.message : Fault → String
  | .io error => error.message
  | .json error => error.message
  | .invalidFieldKey location key defect => reportKey location.text key defect.message
  | .invalidTypeName name => reportTypeName name
  | .typeNameCollision typeName first second => reportCollision typeName first.text second.text

/-- The report of the failure underneath, if there is one. -/
def Fault.cause? : Fault → Option String
  | .io error => some error.message
  | .json error => some error.message
  | _ => none

end SampleModels
