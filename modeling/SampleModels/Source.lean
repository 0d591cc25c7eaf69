import SampleModels.LineBuffer.Basic
import SampleModels.Model

/-!
# Source text of models

A model is written as a class with its fields and an initializer that reads each field back out of
a JSON value. The models below it follow it, each after an empty line, depth first.
-/

namespace SampleModels

/-- The value of a key, as the source looks it up. -/
def lookupText (key : String) : String := "json[\"" ++ Text.literalBody key ++ "\"]"

/-- How an element of a list is taken over. -/
def ElementType.conversion : ElementType → String
  | .nested name => name ++ "(json:v)"
  | _ => "v"

namespace Statement

/-- Takes the value if it is of the kind, and the default otherwise. -/
def writeScalar (key : String) (kind : Scalar) (b : LineBuffer) : Except Breach LineBuffer := do
  let b ← b.openBlock ("if let value = " ++ lookupText key ++ "." ++ kind.accessor ++ " \x7b")
  let b ← b.line (key ++ " = value")
  let b ← b.closeBlock "\x7d else \x7b"
  let b ← b.indent
  let b ← b.line (key ++ " = " ++ kind.defaultLiteral)
  b.closeBlock "\x7d"

def writeList (key : String) (element : ElementType) (b : LineBuffer) :
    Except Breach LineBuffer := do
  let b ← b.line (key ++ " = []")
  let b ← b.openBlock ("if let xs = " ++ lookupText key ++ ".array \x7b")
  let b ← b.openBlock "for v in xs \x7b"
  let b ← b.line (key ++ ".append(" ++ element.conversion ++ ")")
  let b ← b.closeBlock "\x7d"
  b.closeBlock "\x7d"

def write (b : LineBuffer) : Statement → Except Breach LineBuffer
  | .scalar key kind => writeScalar key kind b
  | .passThrough key => b.line (key ++ " = " ++ lookupText key)
  | .nested key typeName => b.line (key ++ " = " ++ typeName ++ "(json:" ++ lookupText key ++ ")")
  | .list key element => writeList key element b
  | .arrayRoot => b.line "// sample root is an array; no fields generated"
  | .scalarRoot => b.line "// sample root is not an object; no fields generated"

end Statement

def Field.write (b : LineBuffer) (field : Field) : Except Breach LineBuffer :=
  b.line ("var " ++ field.name ++ ":" ++ field.type.declaration)

namespace Model

/-- An initializer, in a buffer of its own that starts at `level`. -/
def initializerBlock (level : Nat) (statements : List Statement) : Except Breach LineBuffer := do
  let b ← (LineBuffer.atLevel level).openBlock "init(json:JSONValue) \x7b"
  let b ← statements.foldlM Statement.write b
  b.closeBlock "\x7d"

/-- Writes the class of a model, without those of the models below it. -/
def writeClass (m : Model) (b : LineBuffer) : Except Breach LineBuffer := do
  let b ← b.openBlock ("class " ++ m.typeName ++ " \x7b")
  let b ← m.fields.foldlM Field.write b
  let initializer ← initializerBlock b.level m.initializer
  (b.absorb initializer).closeBlock "\x7d"

mutual

/-- Writes the class of a model and those of the models below it. -/
def write : Model → LineBuffer → Except Breach LineBuffer
  | ⟨name, location, fields, initializer, children⟩, b => do
    let b ← writeClass ⟨name, location, fields, initializer, children⟩ b
    writeAll children b

/-- Writes models, each in a buffer of its own that is absorbed after an empty line. -/
def writeAll : List Model → LineBuffer → Except Breach LineBuffer
  | [], b => .ok b
  | m :: rest, b => do
    let block ← m.write .empty
    writeAll rest (b.blank.absorb block)

end

/-- The source text of a model and those below it. -/
def render (m : Model) (settings : Settings) : Except Breach String := do
  let b ← m.write (.ofWidth settings.indentWidth)
  b.render

end Model

end SampleModels
