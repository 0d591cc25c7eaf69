import SampleModels.Inference
import SampleModels.Sink
import SampleModels.Source

/-!
# Generating source

From a sample to the source of its models, and from the text of a sample to a whole file: a header
line, an empty line, and the source.
-/

namespace SampleModels

/-- Why nothing was generated: a fault of the input, or a breach of the line buffer's rules. -/
inductive Failure where
  | fault (cause : Fault)
  | breach (cause : Breach)
deriving DecidableEq

def generate (sample : Json) (rootName : String) (settings : Settings) : Except Failure String :=
  match infer sample rootName settings with
  | .error fault => .error (.fault fault)
  | .ok model =>
    match model.render settings with
    | .error breach => .error (.breach breach)
    | .ok source => .ok source

/-- The source of the models of a sample given as text. -/
def generateText (text rootName : String) (settings : Settings) : Except Failure String :=
  match Json.read text with
  | .error error => .error (.fault (.json error))
  | .ok sample => generate sample rootName settings

/-- The events of inferring the models of a sample given as text. -/
def inferenceEvents (text rootName : String) (settings : Settings) : List Log.Event :=
  match Json.read text with
  | .error _ => []
  | .ok sample => (inferLogged sample rootName settings).1

def header : String := "// Generated by json-model-gen. Do not edit manually."

/-- The generated file in the pieces in which it is written. -/
def filePieces (source : String) : List String := [header, "\n", "\n", source]

def fileText (source : String) : String := header ++ "\n\n" ++ source

/-- The generated file for a sample given as text. -/
def generateFileText (text rootName : String) (settings : Settings) : Except Failure String :=
  (generateText text rootName settings).map fileText

/-- Generates from a text and writes the file to a receiver. Nothing is written when nothing is
generated. -/
def generateTo {σ : Type} [Receiver σ] (text rootName : String) (settings : Settings)
    (receiver : σ) : σ × Except Failure Unit :=
  match generateText text rootName settings with
  | .error failure => (receiver, .error failure)
  | .ok source =>
    match Receiver.deliver receiver ((filePieces source).map Bytes.ofText) with
    | (after, .ok ()) => (after, .ok ())
    | (after, .error error) => (after, .error (.fault (.io error)))

end SampleModels
