import SampleModels.Log.Event
import SampleModels.Model
import SampleModels.Naming
import SampleModels.Settings

/-!
# Inferring models from a sample

The sample is walked once, depth first, in the order of its keys. Every object met becomes a model
and every member one of its fields. An array is kept as it is or, when arrays are inspected, typed
by its first element alone. The walk issues names, logs events, and stops at the first fault; the
events logged up to there stay.
-/

namespace SampleModels

/-- A stage of the walk: from the names issued so far to the events it logs and, unless a fault
ends the walk, its result and the names issued after it. -/
def Scan (α : Type) : Type := IssuedNames → List Log.Event × Except Fault (α × IssuedNames)

namespace Scan

def result {α : Type} (a : α) : Scan α := fun names => ([], .ok (a, names))

def andThen {α β : Type} (first : Scan α) (next : α → Scan β) : Scan β := fun names =>
  match first names with
  | (events, .error fault) => (events, .error fault)
  | (events, .ok (a, names)) =>
    match next a names with
    | (more, outcome) => (events ++ more, outcome)

instance : Monad Scan where
  pure := result
  bind := andThen

def log (event : Log.Event) : Scan Unit := fun names => ([event], .ok ((), names))

def check (outcome : Except Fault Unit) : Scan Unit := fun names =>
  ([], outcome.map fun _ => ((), names))

/-- Derives and issues the name of a nested model. -/
def deriveName (parent key : String) (location : Pointer) : Scan String := fun names =>
  ([], names.derive parent key location)

end Scan

/-- What one member of an object adds to its model. -/
structure Part where
  field : Field
  statement? : Option Statement := none
  child? : Option Model := none

namespace Inference

/-- The model of an object, once its members have been walked. -/
def assemble (name : String) (location : Pointer) (walk : Scan (List Part)) : Scan Model := do
  let parts ← walk
  let model : Model :=
    ⟨name, location, parts.map Part.field, parts.filterMap Part.statement?,
      parts.filterMap Part.child?⟩
  Scan.log (.built name location model.fields.length model.children.length)
  return model

/-- A root that is no object: a model without fields, and a note. -/
def fieldless (name : String) (note : Statement) : Scan Model := do
  Scan.log (.built name .root 0 0)
  return ⟨name, .root, [], [note], []⟩

def keptArray (key : String) : Part := ⟨⟨key, .rawJson⟩, some (.passThrough key), none⟩

def listPart (key : String) (element : ElementType) (child? : Option Model) : Part :=
  ⟨⟨key, .list element⟩, some (.list key element), child?⟩

/-- Warns when an inspected array has items of another kind than its first. -/
def warnKinds (model : String) (location : Pointer) (first : Json) (rest : List Json) :
    Scan Unit :=
  if rest.any fun item => item.kind ≠ first.kind then Scan.log (.kindsDiffer model location)
  else pure ()

mutual

/-- Walks the members of the object at `location`, which is to become the model `name`. -/
def members (settings : Settings) (name : String) (location : Pointer) :
    List (String × Json) → Scan (List Part)
  | [] => pure []
  | (key, value) :: rest => do
    Scan.check (checkKey key (location.child key))
    let part ← member settings name key (location.child key) value
    Scan.log (.field name key part.field.type.declaration)
    let parts ← members settings name location rest
    return part :: parts

/-- Walks the member `key` of the model `name`; `location` is the member's own. -/
def member (settings : Settings) (name key : String) (location : Pointer) (value : Json) :
    Scan Part :=
  match Scalar.ofJson? value, value with
  | some kind, _ => pure ⟨⟨key, .scalar kind⟩, some (.scalar key kind), none⟩
  | none, .array [] => pure (keptArray key)
  | none, .array (first :: rest) =>
    if settings.inspectArrays then do
      warnKinds name location first rest
      listOf settings name key location first
    else pure (keptArray key)
  | none, .object below => do
    let typeName ← Scan.deriveName name key location
    let child ← assemble typeName location (members settings typeName location below)
    return ⟨⟨key, .nested typeName⟩, some (.nested key typeName), some child⟩
  | none, _ => pure ⟨⟨key, .dynamic⟩, none, none⟩

/-- Walks the first element of the array at the member `key`. -/
def listOf (settings : Settings) (name key : String) (location : Pointer) (first : Json) :
    Scan Part :=
  match Scalar.ofJson? first, first with
  | some kind, _ => pure (listPart key (.scalar kind) none)
  | none, .array _ => pure (listPart key .rawJson none)
  | none, .object below => do
    let typeName ← Scan.deriveName name key location
    let child ← assemble typeName (location.element 0)
      (members settings typeName (location.element 0) below)
    return listPart key (.nested typeName) (some child)
  | none, _ => pure (listPart key .dynamic none)

end

/-- Walks a sample whose root model is to be called `name`. -/
def sample (settings : Settings) (name : String) : Json → Scan Model
  | .object below => assemble name .root (members settings name .root below)
  | .array _ => fieldless name .arrayRoot
  | _ => fieldless name .scalarRoot

end Inference

/-- Infers the models of a sample: the events of the walk, and the root model or a fault. -/
def inferLogged (sample : Json) (rootName : String) (settings : Settings) :
    List Log.Event × Except Fault Model :=
  match IssuedNames.none.claimRoot rootName with
  | .error fault => ([], .error fault)
  | .ok names =>
    let (events, outcome) := Inference.sample settings rootName sample names
    (events, outcome.map Prod.fst)

def infer (sample : Json) (rootName : String) (settings : Settings) : Except Fault Model :=
  (inferLogged sample rootName settings).2

end SampleModels
