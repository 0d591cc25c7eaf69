import SampleModels.Fault
import SampleModels.Text.Case

/-!
# Names of nested models

A nested model is named after the model it is found in and the key it is found at, with the first
character of the key in upper case: `Person` and `address` give `PersonAddress`. Different places
can give one name, so every name of a run is issued once, through `IssuedNames`.
-/

namespace SampleModels

/-- Whether the character can begin an identifier. -/
def isIdentifierStart (c : Char) : Bool := c.isAlpha || c == '_'

/-- Whether the character can go on an identifier. -/
def isIdentifierRest (c : Char) : Bool := c.isAlphanum || c == '_'

/-- ASCII letters, digits and underscores, with no digit in front. -/
def isIdentifier (name : String) : Bool :=
  match name.toList with
  | [] => false
  | c :: rest => isIdentifierStart c && rest.all isIdentifierRest

/-- The name of the model at `key` inside the model `parent`. -/
def nestedTypeName (parent key : String) (location : Pointer) : Except Fault String :=
  match key.toList with
  | [] => .error (.invalidFieldKey location key .empty)
  | c :: rest => .ok (parent ++ String.ofList (Text.uppercase c ++ rest))

/-- Refuses a key that cannot be written on one line. -/
def checkKey (key : String) (location : Pointer) : Except Fault Unit :=
  if key.toList.any Text.isControl then .error (.invalidFieldKey location key .controlCharacter)
  else .ok ()

/-- The names of one run, each with the place of the model it was issued to, the latest first. -/
structure IssuedNames where
  entries : List (String × Pointer)
deriving DecidableEq

namespace IssuedNames

def none : IssuedNames := ⟨[]⟩

def size (names : IssuedNames) : Nat := names.entries.length

def isEmpty (names : IssuedNames) : Bool := names.entries.isEmpty

/-- The place of the model that a name was issued to. -/
def find? (names : IssuedNames) (name : String) : Option Pointer := names.entries.lookup name

/-- Issues a name that has not been issued before. -/
def claim (names : IssuedNames) (name : String) (location : Pointer) : Except Fault IssuedNames :=
  match names.find? name with
  | some first => .error (.typeNameCollision name first location)
  | .none => .ok ⟨(name, location) :: names.entries⟩

def claimRoot (names : IssuedNames) (name : String) : Except Fault IssuedNames :=
  if isIdentifier name then names.claim name .root else .error (.invalidTypeName name)

/-- Derives and issues the name of the model at `key` inside the model `parent`. -/
def derive (names : IssuedNames) (parent key : String) (location : Pointer) :
    Except Fault (String × IssuedNames) := do
  let name ← nestedTypeName parent key location
  if isIdentifier name then
    let names ← names.claim name location
    .ok (name, names)
  else .error (.invalidFieldKey location key .notIdentifier)

/-- A request for a name. -/
inductive Request where
  | root (name : String)
  | nested (parent key : String) (location : Pointer)

/-- Serves a request: the name issued and the names after it. A refused request leaves the names as
they are. -/
def serve (names : IssuedNames) : Request → Except Fault String × IssuedNames
  | .root name =>
    match names.claimRoot name with
    | .ok names => (.ok name, names)
    | .error fault => (.error fault, names)
  | .nested parent key location =>
    match names.derive parent key location with
    | .ok (name, names) => (.ok name, names)
    | .error fault => (.error fault, names)

/-- Serves requests in turn: each answer, with the names after it. -/
def serveAll (names : IssuedNames) : List Request → List (Except Fault String × IssuedNames)
  | [] => []
  | request :: rest =>
    let served := names.serve request
    served :: served.2.serveAll rest

end IssuedNames

end SampleModels
