import SampleModels.Pointer

/-!
# Log events

What a run tells about itself. An event has a level, the part of the program it comes from, a
message, and named values.
-/

namespace SampleModels.Log

/-- How much an event matters, from the most to the least. -/
inductive Level where
  | error
  | warn
  | info
  | debug
  | trace
deriving DecidableEq

namespace Level

def rank : Level → Nat
  | .error => 1
  | .warn => 2
  | .info => 3
  | .debug => 4
  | .trace => 5

def name : Level → String
  | .error => "ERROR"
  | .warn => "WARN"
  | .info => "INFO"
  | .debug => "DEBUG"
  | .trace => "TRACE"

end Level

/-- Something that happened in a run. -/
inductive Event where
  /-- The sample has been read and models are about to be generated. -/
  | generating (rootName : String) (inspectArrays : Bool)
  /-- The items of an array that is typed by its first one are not all of its kind. -/
  | kindsDiffer (model : String) (location : Pointer)
  /-- A field is done. -/
  | field (model key declaration : String)
  /-- A model is done. -/
  | built (typeName : String) (location : Pointer) (fields children : Nat)
deriving DecidableEq

namespace Event

def level : Event → Level
  | .generating .. => .info
  | .kindsDiffer .. => .warn
  | .field .. => .trace
  | .built .. => .debug

/-- The part of the program that the event comes from. -/
def target : Event → String
  | .generating .. => "jsonmodelgen"
  | _ => "json_model_gen::infer"

def message : Event → String
  | .generating .. => "generating models"
  | .kindsDiffer .. => "array elements differ in kind; typing from the first element only"
  | .field .. => "field"
  | .built .. => "built model"

def values : Event → List (String × String)
  | .generating rootName inspectArrays =>
    [("root_name", rootName), ("inspect_arrays", toString inspectArrays)]
  | .kindsDiffer model location => [("model", model), ("location", location.text)]
  | .field model key declaration =>
    [("model", model), ("field", key), ("field_type", declaration)]
  | .built typeName location fields children =>
    [("type_name", typeName), ("location", location.text), ("fields", toString fields),
      ("children", toString children)]

/-- The names a filter can ask for: the message and the values. -/
def fieldNames (e : Event) : List String := "message" :: e.values.map Prod.fst

/-- The event as a line of the log, with its level set to the right in five columns. -/
def line (e : Event) : String :=
  let level := e.level.name
  String.ofList (List.replicate (5 - level.length) ' ') ++ level ++ " " ++ e.target ++ ": " ++
    e.message ++ String.join (e.values.map fun (name, value) => " " ++ name ++ "=" ++ value)

end Event

end SampleModels.Log
