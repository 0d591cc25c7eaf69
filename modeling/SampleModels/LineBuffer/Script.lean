import SampleModels.Association
import SampleModels.LineBuffer.Basic

/-!
# Scripts over line buffers

What can be done to a buffer, as data. `Step` is done to one buffer; `Instruction` names the buffer
it is for and can also make one or copy one. A script ends at its first breach. `apply` tells what
a step makes of a buffer, and `perform` also what is left of the buffer when the step breaks a rule.
-/

namespace SampleModels

namespace LineBuffer

/-- Something done to a buffer. -/
inductive Step where
  | line (text : String)
  | blank
  | indent
  | dedent
  | openBlock (header : String)
  | closeBlock (footer : String)
  | absorb (other : LineBuffer)

def apply (b : LineBuffer) : Step → Except Breach LineBuffer
  | .line text => b.line text
  | .blank => .ok b.blank
  | .indent => b.indent
  | .dedent => b.dedent
  | .openBlock header => b.openBlock header
  | .closeBlock footer => b.closeBlock footer
  | .absorb other => .ok (b.absorb other)

def applyAll (b : LineBuffer) (steps : List Step) : Except Breach LineBuffer :=
  steps.foldlM apply b

/-- Does something to a buffer in place. Where that breaks a rule, the buffer stays as it is. -/
def inPlace (f : LineBuffer → Except Breach LineBuffer) : EStateM Breach LineBuffer Unit := fun b =>
  match f b with
  | .ok c => .ok () c
  | .error breach => .error breach b

/-- Does the step in place. Where its second part breaks a rule, its first part is done. -/
def Step.perform : Step → EStateM Breach LineBuffer Unit
  | .openBlock header => do
    inPlace (·.line header)
    inPlace (·.indent)
  | .closeBlock footer => do
    inPlace (·.dedent)
    inPlace (·.line footer)
  | s => inPlace (·.apply s)

def performAll (steps : List Step) : EStateM Breach LineBuffer Unit := steps.forM Step.perform

end LineBuffer

/-- Buffers by name; a name that was never used stands for an empty buffer. -/
structure Workbench where
  buffers : List (String × LineBuffer)

namespace Workbench

def empty : Workbench := ⟨[]⟩

def get (w : Workbench) (name : String) : LineBuffer := (w.buffers.lookup name).getD .empty

/-- Puts a buffer in the place of the one of that name. -/
def set (w : Workbench) (name : String) (b : LineBuffer) : Workbench :=
  ⟨Association.set w.buffers name b⟩

/-- Something done to the buffer `name`. -/
inductive Instruction where
  /-- A new buffer of that width. -/
  | ofWidth (name : String) (width : Nat)
  /-- A new buffer at that level. -/
  | atLevel (name : String) (level : Nat)
  /-- A copy of the buffer `source`. -/
  | copy (name source : String)
  /-- Takes over the lines that the buffer `source` has now. -/
  | absorb (name source : String)
  /-- A step without another buffer. -/
  | step (name : String) (step : LineBuffer.Step)
  /-- Leaves the buffer as it is and renders it. -/
  | render (name : String)

def Instruction.name : Instruction → String
  | .ofWidth name _ | .atLevel name _ | .copy name _ | .absorb name _ | .step name _ => name
  | .render name => name

def buffer (w : Workbench) : Instruction → Except Breach LineBuffer
  | .ofWidth _ width => .ok (.ofWidth width)
  | .atLevel _ level => .ok (.atLevel level)
  | .copy _ source => .ok (w.get source)
  | .absorb name source => .ok ((w.get name).absorb (w.get source))
  | .step name step => (w.get name).apply step
  | .render name => do
    let _ ← (w.get name).render
    return w.get name

def follow (w : Workbench) (instruction : Instruction) : Except Breach Workbench := do
  let b ← w.buffer instruction
  return w.set instruction.name b

/-- Follows a script up to its end or its first breach: after each instruction the buffer it was
for, or the breach. -/
def trace (w : Workbench) : List Instruction → List (Except Breach LineBuffer)
  | [] => []
  | instruction :: rest =>
    match w.follow instruction with
    | .ok w => .ok (w.get instruction.name) :: w.trace rest
    | .error breach => [.error breach]

def run (w : Workbench) (script : List Instruction) : Except Breach Workbench :=
  script.foldlM follow w

theorem get_set_self (w : Workbench) (name : String) (b : LineBuffer) :
    (w.set name b).get name = b := by
  rw [get, set, Association.lookup_set_self, Option.getD_some]

theorem get_set_of_ne (w : Workbench) {name other : String} (b : LineBuffer) (h : other ≠ name) :
    (w.set name b).get other = w.get other := by
  rw [get, set, Association.lookup_set_of_ne _ _ h, get]

end Workbench

end SampleModels
