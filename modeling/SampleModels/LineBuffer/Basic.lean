import SampleModels.Settings
import SampleModels.Text.Escape

/-!
# Line buffers

A buffer collects lines of text, each with the indentation level it was written at. Spaces are only
made when the buffer is rendered, so a block can be written in a buffer of its own and absorbed by
another without being indented again. Levels are counted in 64 bits and a line is indented by at
most 65535 spaces; what would go beyond is a breach, as is a line break inside a line.
-/

namespace SampleModels

/-- A rule of line buffers that was broken. -/
inductive Breach where
  /-- A block was closed at level 0. -/
  | unopenedBlock
  /-- A line was to hold a line break. -/
  | lineBreak (text : String)
  /-- A block was opened at the highest level. -/
  | levelOverflow
  /-- The spaces before a line cannot be counted in 64 bits. -/
  | widthOverflow
  /-- There are too many spaces before a line. -/
  | tooWide
deriving DecidableEq

def Breach.message : Breach → String
  | .unopenedBlock => "Emitter::dedent called at indentation level 0"
  | .lineBreak text => "Emitter::push_line given a line break: " ++ Text.quoted text
  | .levelOverflow => "attempt to add with overflow"
  | .widthOverflow => "attempt to multiply with overflow"
  | .tooWide => "Formatting argument out of range"

def maxIndent : Nat := 65535

/-- A line and its indentation level. -/
structure Line where
  level : Nat
  text : String
deriving DecidableEq

namespace Line

/-- The line as text, with `width` spaces for each level. An empty line has none. -/
def render (width : Nat) (line : Line) : Except Breach String :=
  if line.text = "" then .ok "\n"
  else if line.level * width ≥ wordSize then .error .widthOverflow
  else if line.level * width > maxIndent then .error .tooWide
  else .ok (String.ofList (List.replicate (line.level * width) ' ') ++ line.text ++ "\n")

end Line

/-- Lines, the level of the next one, and the spaces of a level. -/
structure LineBuffer where
  lines : Array Line
  level : Nat
  width : Nat
deriving DecidableEq

namespace LineBuffer

def ofWidth (width : Nat) : LineBuffer := ⟨#[], 0, width⟩

/-- An empty buffer at level 0 with the default width. -/
def empty : LineBuffer := .ofWidth defaultIndentWidth

/-- An empty buffer for a block that is to be absorbed at `level`. -/
def atLevel (level : Nat) : LineBuffer := { empty with level }

def size (b : LineBuffer) : Nat := b.lines.size

def isEmpty (b : LineBuffer) : Bool := b.lines.isEmpty

def breaksLine (text : String) : Bool := text.toList.any fun c => c == '\n' || c == '\r'

def line (b : LineBuffer) (text : String) : Except Breach LineBuffer :=
  if breaksLine text then .error (.lineBreak text)
  else .ok { b with lines := b.lines.push ⟨b.level, text⟩ }

/-- Writes an empty line, which has level 0. -/
def blank (b : LineBuffer) : LineBuffer := { b with lines := b.lines.push ⟨0, ""⟩ }

def indent (b : LineBuffer) : Except Breach LineBuffer :=
  if b.level + 1 < wordSize then .ok { b with level := b.level + 1 } else .error .levelOverflow

def dedent (b : LineBuffer) : Except Breach LineBuffer :=
  if b.level = 0 then .error .unopenedBlock else .ok { b with level := b.level - 1 }

/-- Writes the header of a block and goes into it. -/
def openBlock (b : LineBuffer) (header : String) : Except Breach LineBuffer := do
  let b ← b.line header
  b.indent

def closeBlock (b : LineBuffer) (footer : String) : Except Breach LineBuffer := do
  let b ← b.dedent
  b.line footer

/-- Takes over the lines of another buffer, at their own levels. -/
def absorb (b other : LineBuffer) : LineBuffer := { b with lines := b.lines ++ other.lines }

/-- The buffer as text. The first line that breaks a rule decides. -/
def render (b : LineBuffer) : Except Breach String := do
  let lines ← b.lines.toList.mapM (Line.render b.width)
  return String.join lines

@[simp] theorem toList_lines_blank (b : LineBuffer) :
    b.blank.lines.toList = b.lines.toList ++ [⟨0, ""⟩] := by simp [blank]

@[simp] theorem toList_lines_absorb (b other : LineBuffer) :
    (b.absorb other).lines.toList = b.lines.toList ++ other.lines.toList := by simp [absorb]

theorem line_eq_ok_iff {b b' : LineBuffer} {text : String} :
    b.line text = .ok b' ↔
      breaksLine text = false ∧ b' = { b with lines := b.lines.push ⟨b.level, text⟩ } := by
  unfold line
  by_cases h : breaksLine text
  · simp [h]
  · simp only [h, Bool.false_eq_true, if_false, Except.ok.injEq, true_and]
    exact eq_comm

end LineBuffer

end SampleModels
