import SampleModels.Text.Digit
import SampleModels.Text.Letter
import SampleModels.Text.Split

/-!
# Patterns in log directives

Which texts can be the pattern of a field's value. Patterns are regular expressions without tables
of Unicode properties: a class of letters or digits, a word boundary and matching without regard to
case are refused unless the pattern asks for ASCII by the flag `-u`, and then nothing that could
match half a character is let through. A directive ends a value at a closing brace and a comma, so
no pattern has a repetition count, and every open brace that would start one is refused. Parts nest
at most 250 deep: groups, repetitions, classes, and sequences and choices of more than one part.
-/

namespace SampleModels.Log

namespace Pattern

/-- The flags that decide what a pattern may hold. -/
structure Flags where
  /-- Matches without regard to case. -/
  caseless : Bool := false
  /-- Matches characters, not bytes. -/
  unicode : Bool := true
  /-- Blanks and comments are skipped. -/
  spaced : Bool := false

namespace Flags

/-- Sets the flag of that letter; the other flags change nothing here. -/
def set (flags : Flags) (letter : Char) (value : Bool) : Flags :=
  if letter = 'i' then { flags with caseless := value }
  else if letter = 'u' then { flags with unicode := value }
  else if letter = 'x' then { flags with spaced := value }
  else flags

def letters : List Char := ['i', 'm', 's', 'U', 'u', 'R', 'x']

end Flags

/-- Skips blanks, and comments from `#` to the end of the line. -/
def skipBlanks (inComment : Bool) : List Char → List Char
  | [] => []
  | c :: rest =>
    if inComment then skipBlanks (c ≠ '\n') rest
    else if Text.isBlank c then skipBlanks false rest
    else if c = '#' then skipBlanks true rest
    else c :: rest

/-- Skips what the flags let stand between two parts of a pattern. -/
def Flags.skip (flags : Flags) (cs : List Char) : List Char :=
  if flags.spaced then skipBlanks false cs else cs

/-- The next character that is not a blank; a `#` is passed over once. -/
def Flags.peek? (flags : Flags) (cs : List Char) : Option Char :=
  if flags.spaced then
    match cs.dropWhile Text.isBlank with
    | '#' :: rest => (rest.dropWhile Text.isBlank).head?
    | rest => rest.head?
  else cs.head?

/-- A part that a pattern is put together from. -/
inductive Atom where
  /-- A character; `byte` if it was written as a byte in hexadecimal. -/
  | literal (c : Char) (byte : Bool)
  /-- Any character. -/
  | any
  /-- An end of the text or of a line. -/
  | anchor
  | wordBoundary
  /-- Digits, blanks or word characters, or all others. -/
  | shorthand (negated : Bool)

namespace Atom

def isAllowed (flags : Flags) : Atom → Bool
  | .literal c byte => if flags.unicode then !flags.caseless else !byte || c.toNat < 0x80
  | .any => flags.unicode
  | .anchor => true
  | .wordBoundary => !flags.unicode
  | .shorthand negated => !flags.unicode && !negated

def isAllowedInClass (flags : Flags) : Atom → Bool
  | .literal c _ => if flags.unicode then !flags.caseless else c.toNat < 0x80
  | .shorthand negated => !flags.unicode && !negated
  | _ => false

end Atom

def readHex (flags : Flags) : Nat → List Char → Option (List Nat × List Char)
  | 0, cs => some ([], cs)
  | n + 1, cs => do
    match cs with
    | [] => none
    | c :: rest =>
      let digit ← Text.hexDigit? c
      let (digits, rest) ← readHex flags n (flags.skip rest)
      return (digit :: digits, rest)

/-- Reads a character given by `n` hexadecimal digits. -/
def readCode (flags : Flags) (n : Nat) (cs : List Char) : Option (Atom × List Char) := do
  let (digits, rest) ← readHex flags n (flags.skip cs)
  let code := Text.ofDigits 16 digits
  if code.isValidChar then return (.literal (Char.ofNat code) (n == 2), rest) else none

/-- The control character that a letter stands for after a backslash. -/
def control? (letter : Char) : Option Char :=
  [('a', '\x07'), ('f', '\x0c'), ('t', '\t'), ('n', '\n'), ('r', '\r'), ('v', '\x0b')].lookup letter

def readEscape (flags : Flags) : List Char → Option (Atom × List Char)
  | [] => none
  | c :: rest =>
    if c = 'x' then readCode flags 2 rest
    else if c = 'u' then readCode flags 4 rest
    else if c = 'U' then readCode flags 8 rest
    else if c ∈ ['d', 's', 'w'] then some (.shorthand false, rest)
    else if c ∈ ['D', 'S', 'W'] then some (.shorthand true, rest)
    else if c ∈ ['b', 'B', '<', '>'] then some (.wordBoundary, rest)
    else if c = 'A' || c = 'z' then some (.anchor, rest)
    else match control? c with
      | some control => some (.literal control false, rest)
      | none =>
        if c.isAlphanum || 0x80 ≤ c.toNat then none else some (.literal c false, rest)

def readClassItem (flags : Flags) : List Char → Option (Atom × List Char)
  | [] => none
  | c :: rest => if c = '\\' then readEscape flags rest else some (.literal c false, rest)

/-- Reads an item or a range of a class. A dash before a bracket or another dash makes no range. -/
def readClassRange (flags : Flags) (cs : List Char) : Option (List Char) := do
  let (first, rest) ← readClassItem flags cs
  if first.isAllowedInClass flags then
    match flags.skip rest with
    | '-' :: after =>
      if flags.peek? after = some ']' || flags.peek? after = some '-' then return '-' :: after
      else
        let (last, rest) ← readClassItem flags (flags.skip after)
        match first, last with
        | .literal a _, .literal b _ =>
          if a ≤ b && last.isAllowedInClass flags then return rest else none
        | _, _ => none
    | rest => return rest
  else none

def classNames : List String :=
  ["alnum", "alpha", "ascii", "blank", "cntrl", "digit", "graph", "lower", "print", "punct",
    "space", "upper", "word", "xdigit"]

/-- Reads a named class after its bracket, and whether it is negated. -/
def readNamedClass? : List Char → Option (Bool × List Char)
  | ':' :: rest =>
    let (negated, rest) := match rest with
      | '^' :: rest => (true, rest)
      | _ => (false, rest)
    match rest.dropWhile (· != ':') with
    | ':' :: ']' :: after =>
      if String.ofList (rest.takeWhile (· != ':')) ∈ classNames then some (negated, after)
      else none
    | _ => none
  | _ => none

/-- The depth of parts put together, from their own depths. A single part stays what it is. -/
def together : List Nat → Nat
  | [] => 0
  | [depth] => depth
  | depths => depths.foldl Nat.max 0 + 1

/-- A class that has been begun. -/
structure OpenClass where
  /-- The depths of the items after the last set operator. -/
  items : List Nat := []
  /-- The depth of what stands before that operator. -/
  operand? : Option Nat := none

namespace OpenClass

def depth (c : OpenClass) : Nat :=
  match c.operand? with
  | none => together c.items
  | some operand => Nat.max operand (together c.items) + 1

def add (c : OpenClass) (depth : Nat) : OpenClass := { c with items := depth :: c.items }

def operate (c : OpenClass) : OpenClass := { operand? := some c.depth }

end OpenClass

/-- Reads dashes in front of a class, which stand for themselves. -/
def readDashes (flags : Flags) (c : OpenClass) : Nat → List Char → OpenClass × List Char
  | n + 1, '-' :: rest => readDashes flags (c.add 0) n (flags.skip rest)
  | _, cs => (c, cs)

/-- Reads the beginning of a class after its bracket: a negation, and then dashes or a closing
bracket, which stand for themselves. -/
def openClass (flags : Flags) (cs : List Char) : Option (OpenClass × List Char) :=
  let literal := Atom.isAllowedInClass flags (.literal '-' false)
  match flags.skip cs with
  | '^' :: rest => if flags.unicode then start literal (flags.skip rest) else none
  | rest => start literal rest
where
  /-- Reads the characters that stand for themselves. -/
  start (literal : Bool) (cs : List Char) : Option (OpenClass × List Char) :=
    match cs with
    | '-' :: _ => if literal then some (readDashes flags {} cs.length cs) else none
    | ']' :: rest => if literal then some (OpenClass.add {} 0, flags.skip rest) else none
    | _ => some ({}, cs)

/-- Reads the rest of the class `c` inside others, and says how deep the outermost one is; `fuel`
bounds the steps: every step reads a character. -/
def readClass (flags : Flags) : Nat → OpenClass → List OpenClass → List Char →
    Option (Nat × List Char)
  | 0, _, _, _ => none
  | fuel + 1, c, outer, cs =>
    match flags.skip cs with
    | [] => none
    | '[' :: rest =>
      match readNamedClass? rest with
      | some (negated, after) =>
        if (if flags.unicode then !flags.caseless else !negated) then
          readClass flags fuel (c.add 0) outer after
        else none
      | none =>
        (openClass flags rest).bind fun (inner, rest) =>
          readClass flags fuel inner (c :: outer) rest
    | ']' :: rest =>
      match outer with
      | [] => some (c.depth + 1, rest)
      | around :: outer => readClass flags fuel (around.add (c.depth + 1)) outer rest
    | '&' :: '&' :: rest | '-' :: '-' :: rest | '~' :: '~' :: rest =>
      readClass flags fuel c.operate outer rest
    | cs => (readClassRange flags cs).bind (readClass flags fuel (c.add 0) outer)

/-- Reads flags up to a colon or a bracket; `seen` holds those read, backwards. The ones after a
dash are cleared. -/
def readFlags (flags : Flags) (seen : List Char) :
    List Char → Option (Flags × List Char × List Char)
  | [] => none
  | c :: rest =>
    if c = ':' || c = ')' then
      if seen.head? = some '-' then none else some (flags, seen, c :: rest)
    else if c ∈ seen then none
    else if c = '-' || c ∈ Flags.letters then
      readFlags (flags.set c !(seen.contains '-')) (c :: seen) rest
    else none

def isGroupName : List Char → Bool
  | [] => false
  | c :: rest =>
    (c == '_' || Text.isAlphabetic c) &&
      rest.all fun c => c ∈ ['_', '.', '[', ']'] || Text.isAlphanumeric c

/-- The parts at one level of a pattern. -/
structure Parts where
  /-- The depths of the parts after the last bar, the last first. -/
  sequence : List Nat := []
  /-- The depths of the choices before it. -/
  choices : List Nat := []

def Parts.depth (parts : Parts) : Nat := together (together parts.sequence :: parts.choices)

/-- How far a pattern has been read. -/
structure Progress where
  flags : Flags := {}
  parts : Parts := {}
  /-- Whether the last part can be repeated. -/
  repeatable : Bool := false
  /-- The flags and the parts to go back to at the end of each open group. -/
  outer : List (Flags × Parts) := []
  /-- The names of groups so far. -/
  names : List (List Char) := []

def maxDepth : Nat := 250

namespace Progress

def add (p : Progress) (depth : Nat) (repeatable : Bool) : Progress :=
  { p with parts := { p.parts with sequence := depth :: p.parts.sequence }, repeatable }

def repeatLast? (p : Progress) : Option Progress :=
  match p.parts.sequence with
  | depth :: before =>
    if p.repeatable then some { p with parts := { p.parts with sequence := (depth + 1) :: before } }
    else none
  | [] => none

def choose (p : Progress) : Progress :=
  { p with
    parts := { choices := together p.parts.sequence :: p.parts.choices }
    repeatable := false }

def openGroup (p : Progress) (flags : Flags) : Progress :=
  { p with flags, parts := {}, repeatable := false, outer := (p.flags, p.parts) :: p.outer }

def closeGroup? (p : Progress) : Option Progress :=
  match p.outer with
  | [] => none
  | (flags, parts) :: outer => some (add { p with flags, parts, outer } (p.parts.depth + 1) true)

def nameGroup (p : Progress) (cs : List Char) : Option (Progress × List Char) :=
  let name := cs.takeWhile (· != '>')
  match cs.dropWhile (· != '>') with
  | [] => none
  | _ :: rest =>
    if isGroupName name && name ∉ p.names then
      some ({ p.openGroup p.flags with names := name :: p.names }, rest)
    else none

/-- Reads what follows the bracket of a group: its name, its flags, or flags for what comes after
in the group around. -/
def beginGroup (p : Progress) (cs : List Char) : Option (Progress × List Char) :=
  match p.flags.skip cs with
  | '?' :: 'P' :: '<' :: rest | '?' :: '<' :: rest => p.nameGroup rest
  | '?' :: rest =>
    match readFlags p.flags [] rest with
    | some (flags, _, ':' :: rest) => some (p.openGroup flags, rest)
    | some (_, [], _) => none
    | some (flags, _, _ :: rest) => some (add { p with flags } 0 false, rest)
    | _ => none
  | rest => some (p.openGroup p.flags, rest)

def readPart (p : Progress) (cs : List Char) : Option (Progress × List Char) := do
  let (atom, rest) ← match cs with
    | [] => none
    | '\\' :: rest => readEscape p.flags rest
    | '.' :: rest => some (.any, rest)
    | '^' :: rest | '$' :: rest => some (.anchor, rest)
    | c :: rest => some (.literal c false, rest)
  if atom.isAllowed p.flags then return (p.add 0 true, rest) else none

/-- Reads one step of a pattern. A question mark after a repetition belongs to it. -/
def step (p : Progress) (cs : List Char) : Option (Progress × List Char) :=
  match cs with
  | '(' :: rest => p.beginGroup rest
  | ')' :: rest => p.closeGroup?.map (·, rest)
  | '|' :: rest => some (p.choose, rest)
  | '[' :: rest => do
    let (c, rest) ← openClass p.flags rest
    let (depth, rest) ← readClass p.flags (rest.length + 1) c [] rest
    return (p.add depth true, rest)
  | '?' :: '?' :: rest | '*' :: '?' :: rest | '+' :: '?' :: rest
  | '?' :: rest | '*' :: rest | '+' :: rest => p.repeatLast?.map (·, rest)
  | '\x7b' :: _ => none
  | cs => p.readPart cs

/-- Whether the rest of a pattern can be read to its end, with every group closed and nothing too
deep; `fuel` bounds the steps: every step reads a character. -/
def finishes : Nat → Progress → List Char → Bool
  | 0, _, _ => false
  | fuel + 1, p, cs =>
    match p.flags.skip cs with
    | [] => p.outer.isEmpty && p.parts.depth ≤ maxDepth
    | cs =>
      match p.step cs with
      | none => false
      | some (p, rest) => finishes fuel p rest

end Progress

def isValid (text : List Char) : Bool := Progress.finishes (text.length + 1) {} text

end Pattern

end SampleModels.Log
