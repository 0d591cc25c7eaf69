import SampleModels.Log.Directive

/-!
# Log filters

A filter is a list of directives, separated by commas. Of the directives that concern an event the
one that describes it most closely decides; between two that describe it alike, the later one.
-/

namespace SampleModels.Log

/-- Directives in their order. -/
structure Filter where
  directives : List Directive

namespace Filter

/-- Events up to a level, wherever they come from. -/
def upTo (level : Level) : Filter := ⟨[{ verbosity := .upTo level }]⟩

/-- What is let through when nothing is asked for. -/
def standard : Filter := upTo .warn

/-- Reads a filter. An empty one lets errors through. -/
def read (text : String) : Except DirectiveDefect Filter := do
  let parts := (text.toList.splitOn ',').filter fun part => !part.isEmpty
  let directives ← parts.mapM Directive.read
  return if directives.isEmpty then upTo .error else ⟨directives⟩

/-- The filter that a setting asks for. A setting that is missing or malformed asks for the
standard one; one that cuts a character apart breaks off the run. -/
def ofSetting? : Option String → Option Filter
  | none => some standard
  | some text =>
    match read text with
    | .ok filter => some filter
    | .error .malformed => some standard
    | .error .brokenCharacter => none

def decisive? (f : Filter) (e : Event) : Option Directive :=
  (f.directives.filter fun d => d.isStatic && d.concerns e).foldl
    (fun best? d =>
      match best? with
      | none => some d
      | some best => if Directive.detailLe best.detail d.detail then some d else some best)
    none

def allows (f : Filter) (e : Event) : Bool :=
  match f.decisive? e with
  | none => false
  | some d => d.verbosity.allows e.level

/-- The lines of the log: the events let through, in order. -/
def lines (f : Filter) (events : List Event) : List String :=
  (events.filter f.allows).map Event.line

end Filter

end SampleModels.Log
