import SampleModels.Log.Event
import SampleModels.Log.Pattern

/-!
# Log directives

A directive lets events through: `level`, `target`, `target=level`, or `target[span{field}]=level`,
where all but one of the parts can be missing. Blanks around a directive are no part of it, but the
parts are cut out of the text with its blanks, at the distances in bytes that they have in the text
without them. A cut inside a character cannot be made.
-/

namespace SampleModels.Log

/-- What a directive lets through: nothing, or events up to a level. -/
inductive Verbosity where
  | off
  | upTo (level : Level)
deriving DecidableEq

namespace Verbosity

def allows : Verbosity → Level → Bool
  | .off, _ => false
  | .upTo most, level => level.rank ≤ most.rank

def all : List Verbosity :=
  [.off, .upTo .error, .upTo .warn, .upTo .info, .upTo .debug, .upTo .trace]

/-- The number that decimal digits stand for, with a plus sign or without one. -/
def number? (text : List Char) : Option Nat :=
  let digits := match text with
    | '+' :: rest => rest
    | _ => text
  if digits = [] then none else (digits.mapM Text.digit?).map (Text.ofDigits 10)

def name : Verbosity → String
  | .off => "off"
  | .upTo level => level.name.map Char.toLower

/-- Reads a verbosity: its number, or its name in any case. -/
def ofText? (text : List Char) : Option Verbosity :=
  match (number? text).bind fun n => all[n]? with
  | some verbosity => some verbosity
  | none => all.find? fun verbosity => verbosity.name.toList == text.map Char.toLower

end Verbosity

/-- Why a text is no directive. -/
inductive DirectiveDefect where
  | malformed
  /-- A part would have to be cut out inside a character. -/
  | brokenCharacter
deriving DecidableEq

/-- A field that events must have, and whether its value matters. -/
structure FieldDemand where
  name : List Char
  hasValue : Bool
deriving DecidableEq

/-- A directive. -/
structure Directive where
  target? : Option (List Char) := none
  span? : Option (List Char) := none
  field? : Option FieldDemand := none
  verbosity : Verbosity := .upTo .trace
deriving DecidableEq

namespace Directive

/-- Whether a text is the number of a field's value: digits with a point or an exponent, or one of
the words for infinity and for no number. -/
def isNumber (text : List Char) : Bool :=
  let unsigned := dropSign text
  String.ofList (unsigned.map Char.toLower) ∈ ["inf", "infinity", "nan"] ||
    let whole := unsigned.takeWhile Char.isDigit
    let (fraction, rest) := match unsigned.dropWhile Char.isDigit with
      | '.' :: rest => (rest.takeWhile Char.isDigit, rest.dropWhile Char.isDigit)
      | rest => ([], rest)
    (whole ≠ [] || fraction ≠ []) && isExponent rest
where
  /-- The text without its sign. -/
  dropSign : List Char → List Char
    | '+' :: rest | '-' :: rest => rest
    | text => text
  /-- Whether the text is an exponent, or nothing. -/
  isExponent : List Char → Bool
    | [] => true
    | c :: rest => (c = 'e' || c = 'E') && dropSign rest ≠ [] && (dropSign rest).all Char.isDigit

/-- Reads a field: its name and, after an equals sign, its value. -/
def readField (text : List Char) : Except DirectiveDefect FieldDemand :=
  match text.splitOn '=' with
  | name :: value :: _ =>
    if isNumber value || Pattern.isValid value then .ok ⟨name, true⟩ else .error .malformed
  | _ => .ok ⟨text, false⟩

def dropBytes : Nat → List Char → Except DirectiveDefect (List Char)
  | 0, text => .ok text
  | _, [] => .ok []
  | n, c :: rest =>
    if c.utf8Size ≤ n then dropBytes (n - c.utf8Size) rest else .error .brokenCharacter

def takeBytes : Nat → List Char → Except DirectiveDefect (List Char)
  | 0, _ => .ok []
  | _, [] => .ok []
  | n, c :: rest =>
    if c.utf8Size ≤ n then (takeBytes (n - c.utf8Size) rest).map (c :: ·)
    else .error .brokenCharacter

/-- The part of the text between two distances from its beginning. -/
def cut (text : List Char) (start stop : Nat) : Except DirectiveDefect (List Char) := do
  let rest ← dropBytes start text
  takeBytes (stop - start) rest

/-- Where the reader of a directive is; `start` is the distance of the part it is in. -/
inductive State where
  | beginning
  | levelOrTarget (start : Nat)
  | span (start : Nat)
  | field (start : Nat)
  | afterField
  | afterSpan
  | level (start : Nat)

/-- Whether a level or a target can begin with the character. -/
def canBegin (c : Char) : Bool := c ∈ ['-', ':', '_'] || Text.isAlphanumeric c

def step (text : List Char) (d : Directive) (state : State) (i : Nat) (c : Char) :
    Except DirectiveDefect (Directive × State) :=
  match state with
  | .beginning =>
    if c = '[' then .ok (d, .span (i + 1))
    else if canBegin c then .ok (d, .levelOrTarget i)
    else .error .malformed
  | .levelOrTarget start => do
    if c = '=' || c = '[' then
      let target ← cut text start i
      return ({ d with target? := some target },
        if c = '=' then .level (i + 1) else .span (i + 1))
    else return (d, state)
  | .span start => do
    if c = ']' then
      let span ← cut text start i
      return ({ d with span? := some span }, .afterSpan)
    else if c = '\x7b' then
      let span ← cut text start i
      return ({ d with span? := if span = [] then none else some span }, .field (i + 1))
    else return (d, state)
  | .field start => do
    if c = '\x7d' then
      let part ← cut text start i
      if part = [] then .error .malformed
      else
        let field ← readField part
        return ({ d with field? := some field }, .afterField)
    else return (d, state)
  | .afterField => if c = ']' then .ok (d, .afterSpan) else .error .malformed
  | .afterSpan => if c = '=' then .ok (d, .level (i + 1)) else .error .malformed
  | .level _ => .ok (d, state)

def finish (text : List Char) (d : Directive) : State → Except DirectiveDefect Directive
  | .levelOrTarget start => do
    let part ← dropBytes start text
    if part = [] then return d
    else match Verbosity.ofText? part with
      | some verbosity => return { d with verbosity }
      | none => return { d with target? := some part }
  | .level start => do
    let part ← dropBytes start text
    if part = [] then return d
    else match Verbosity.ofText? part with
      | some verbosity => return { d with verbosity }
      | none => .error .malformed
  | .afterSpan => .ok d
  | _ => .error .malformed

/-- Reads characters from distance `i` on to the end of a directive. -/
def readFrom (text : List Char) (d : Directive) (state : State) (i : Nat) :
    List Char → Except DirectiveDefect Directive
  | [] => d.finish text state
  | c :: rest => do
    let (d, state) ← d.step text state i c
    readFrom text d state (i + c.utf8Size) rest

def read (text : List Char) : Except DirectiveDefect Directive :=
  readFrom text {} .beginning 0 (Text.trimBlanks text)

/-- Whether the directive can be decided without knowing the spans and values of a run. -/
def isStatic (d : Directive) : Bool :=
  d.span?.isNone && match d.field? with
    | none => true
    | some field => !field.hasValue

/-- Whether the directive is about events like this one. -/
def concerns (d : Directive) (e : Event) : Bool :=
  (match d.target? with
    | none => true
    | some target => target.isPrefixOf e.target.toList) &&
  match d.field? with
    | none => true
    | some field => String.ofList field.name ∈ e.fieldNames

/-- How closely the directive describes an event that it is about: by the length of its target,
then by a field. -/
def detail (d : Directive) : Nat × Option (List Char) :=
  (match d.target? with
    | none => 0
    | some target => (String.ofList target).utf8ByteSize + 1, d.field?.map FieldDemand.name)

/-- Whether one text comes before another in the order of characters or is the same. -/
def textLe : List Char → List Char → Bool
  | [], _ => true
  | _ :: _, [] => false
  | c :: rest, d :: more => c.toNat < d.toNat || (c = d && textLe rest more)

/-- Whether one detail comes before another or is the same. -/
def detailLe (a b : Nat × Option (List Char)) : Bool :=
  a.1 < b.1 || a.1 = b.1 && match a.2, b.2 with
    | none, _ => true
    | some _, none => false
    | some x, some y => textLe x y

end Directive

end SampleModels.Log
