import SampleModels.Json.Basic
import SampleModels.Json.Magnitude
import SampleModels.Text.Digit

/-!
# Reading JSON

`Json.read` reads one value from a text that holds nothing else but whitespace. A text that is
refused is refused at a place: its line, and the bytes of the line up to there. Reading goes from
left to right, so the first fault decides. Brackets nest at most 127 deep.
-/

namespace SampleModels.Json

/-- Why a text is not JSON. -/
inductive Defect where
  | endOfValue
  | endOfList
  | endOfObject
  | endOfString
  | expectedValue
  | expectedWord
  | expectedColon
  | expectedListComma
  | expectedObjectComma
  | keyNotString
  | trailingComma
  | trailingCharacters
  | invalidNumber
  | numberOutOfRange
  | invalidEscape
  | loneSurrogate
  | endOfSurrogate
  | controlCharacter
  | nesting
deriving DecidableEq

def Defect.message : Defect → String
  | .endOfValue => "EOF while parsing a value"
  | .endOfList => "EOF while parsing a list"
  | .endOfObject => "EOF while parsing an object"
  | .endOfString => "EOF while parsing a string"
  | .expectedValue => "expected value"
  | .expectedWord => "expected ident"
  | .expectedColon => "expected `:`"
  | .expectedListComma => "expected `,` or `]`"
  | .expectedObjectComma => "expected `,` or `\x7d`"
  | .keyNotString => "key must be a string"
  | .trailingComma => "trailing comma"
  | .trailingCharacters => "trailing characters"
  | .invalidNumber => "invalid number"
  | .numberOutOfRange => "number out of range"
  | .invalidEscape => "invalid escape"
  | .loneSurrogate => "lone leading surrogate in hex escape"
  | .endOfSurrogate => "unexpected end of hex escape"
  | .controlCharacter => "control character (\\u0000-\\u001F) found while parsing a string"
  | .nesting => "recursion limit exceeded"

/-- A place in a text: the line, from 1, and the bytes read since the line began. -/
structure Position where
  line : Nat
  column : Nat
deriving DecidableEq

namespace Position

def start : Position := ⟨1, 0⟩

def after (p : Position) (c : Char) : Position :=
  if c = '\n' then ⟨p.line + 1, 0⟩ else ⟨p.line, p.column + c.utf8Size⟩

/-- The place `n` bytes further on, inside a character if need be, and no further than the end. -/
def afterBytes (p : Position) : Nat → List Char → Position
  | 0, _ => p
  | _, [] => p
  | n, c :: rest =>
    if c.utf8Size ≤ n then (p.after c).afterBytes (n - c.utf8Size) rest
    else ⟨p.line, p.column + n⟩

end Position

/-- A defect and its place. -/
structure ReadError where
  defect : Defect
  position : Position
deriving DecidableEq

def ReadError.message (e : ReadError) : String :=
  e.defect.message ++ " at line " ++ toString e.position.line ++ " column " ++
    toString e.position.column

/-- The rest of a text and its place. -/
structure Cursor where
  rest : List Char
  position : Position

namespace Cursor

def ofText (text : String) : Cursor := ⟨text.toList, .start⟩

def fail {α : Type} (c : Cursor) (defect : Defect) : Except ReadError α :=
  .error ⟨defect, c.position⟩

def failNext {α : Type} (c : Cursor) (defect : Defect) : Except ReadError α :=
  .error ⟨defect, c.position.afterBytes 1 c.rest⟩

def skip (c : Cursor) : Cursor :=
  match c.rest with
  | [] => c
  | x :: rest => ⟨rest, c.position.after x⟩

/-- JSON's own whitespace. -/
def isSpace (x : Char) : Bool := x == ' ' || x == '\n' || x == '\t' || x == '\r'

def skipWhile (p : Char → Bool) : List Char → Position → Cursor
  | [], position => ⟨[], position⟩
  | x :: rest, position =>
    if p x then skipWhile p rest (position.after x) else ⟨x :: rest, position⟩

def skipSpace (c : Cursor) : Cursor := skipWhile isSpace c.rest c.position

/-- The text between two cursors of one text, which is ASCII and has no line break. -/
def textUntil (c stop : Cursor) : String :=
  String.ofList (c.rest.take (stop.position.column - c.position.column))

end Cursor

def readWord (value : Json) : List Char → Cursor → Except ReadError (Json × Cursor)
  | [], c => .ok (value, c)
  | x :: more, c =>
    match c.rest with
    | [] => c.fail .endOfValue
    | y :: _ => if x = y then readWord value more c.skip else c.failNext .expectedWord

def readDigits (push : Decimal → Nat → Decimal) : List Char → Position → Decimal → Decimal × Cursor
  | [], position, d => (d, ⟨[], position⟩)
  | x :: rest, position, d =>
    match Text.digit? x with
    | some n => readDigits push rest (position.after x) (push d n)
    | none => (d, ⟨x :: rest, position⟩)

/-- The largest exponent that is still counted. -/
def maxExponent : Nat := Nat.pow 2 31 - 1

/-- Reads the digits of an exponent. One that is too large puts a number other than zero out of
range, unless the exponent is negative. -/
def readExponentDigits (negative : Bool) (d : Decimal) :
    List Char → Position → Nat → Except ReadError (Decimal × Cursor)
  | [], position, e => .ok (shift e, ⟨[], position⟩)
  | x :: rest, position, e =>
    match Text.digit? x with
    | none => .ok (shift e, ⟨x :: rest, position⟩)
    | some n =>
      if e * 10 + n ≤ maxExponent then
        readExponentDigits negative d rest (position.after x) (e * 10 + n)
      else if d.significand ≠ 0 && !negative then
        Cursor.fail ⟨rest, position.after x⟩ .numberOutOfRange
      else
        .ok ({ d with significand := 0 }, Cursor.skipWhile Char.isDigit rest (position.after x))
where
  /-- The number with its exponent moved. -/
  shift (e : Nat) : Decimal :=
    { d with exponent := if negative then d.exponent - e else d.exponent + e }

def readExponent (d : Decimal) (c : Cursor) : Except ReadError (Decimal × Cursor) :=
  match c.rest with
  | 'e' :: _ | 'E' :: _ =>
    let (negative, c) := match c.skip.rest with
      | '+' :: _ => (false, c.skip.skip)
      | '-' :: _ => (true, c.skip.skip)
      | _ => (false, c.skip)
    match c.rest with
    | [] => c.fail .endOfValue
    | x :: rest =>
      match Text.digit? x with
      | none => c.failNext .invalidNumber
      | some n => readExponentDigits negative d rest c.skip.position n
  | _ => .ok (d, c)

/-- Reads the part after a decimal point, if there is one. -/
def readFraction (d : Decimal) (c : Cursor) : Except ReadError (Decimal × Cursor) :=
  match c.rest with
  | '.' :: rest =>
    match c.skip.rest with
    | [] => c.skip.failNext .endOfValue
    | x :: _ =>
      match Text.digit? x with
      | none => c.skip.failNext .invalidNumber
      | some _ =>
        .ok (readDigits Decimal.pushFraction rest c.skip.position { d with full := false })
  | _ => .ok (d, c)

/-- Reads the part before the decimal point: a single zero, or digits that start with another. -/
def readInteger (c : Cursor) : Except ReadError (Decimal × Cursor) :=
  match c.rest with
  | [] => c.fail .endOfValue
  | '0' :: rest =>
    match rest with
    | x :: _ => if x.isDigit then c.skip.failNext .invalidNumber else .ok (.zero, c.skip)
    | [] => .ok (.zero, c.skip)
  | x :: _ =>
    if x.isDigit then .ok (readDigits Decimal.pushInteger c.rest c.position .zero)
    else c.failNext .invalidNumber

def readNumber (start c : Cursor) : Except ReadError (Json × Cursor) := do
  let (d, c) ← readInteger c
  let (d, c) ← readFraction d c
  let (d, c) ← readExponent d c
  if d.inRange then .ok (.number (start.textUntil c), c) else c.fail .numberOutOfRange

/-- Reads four hexadecimal digits. Anything else is refused after four bytes of it. -/
def readHex (c : Cursor) : Except ReadError (Nat × Cursor) :=
  let atEnd : Cursor := ⟨[], c.position.afterBytes 4 c.rest⟩
  if (String.ofList (c.rest.take 4)).utf8ByteSize < 4 then atEnd.fail .endOfString
  else match (c.rest.take 4).mapM Text.hexDigit? with
    | some digits =>
      .ok (Text.ofDigits 16 digits, ⟨c.rest.drop 4, atEnd.position⟩)
    | none => atEnd.fail .invalidEscape

/-- A character outside of the basic plane from its two surrogates. -/
def joinSurrogates (high low : Nat) : Char :=
  Char.ofNat (0x10000 + (high - 0xD800) * 0x400 + (low - 0xDC00))

/-- Expects the character `x` of the escape of a second surrogate. -/
def readSurrogateMark (x : Char) (c : Cursor) : Except ReadError Cursor :=
  match c.rest with
  | [] => c.fail .endOfString
  | y :: _ => if x = y then .ok c.skip else c.failNext .endOfSurrogate

/-- Reads what follows `\u`. A high surrogate must be followed by the escape of a low one. -/
def readUnicodeEscape (c : Cursor) : Except ReadError (Char × Cursor) := do
  let (n, c) ← readHex c
  if 0xDC00 ≤ n && n ≤ 0xDFFF then c.fail .loneSurrogate
  else if n < 0xD800 || 0xDBFF < n then .ok (Char.ofNat n, c)
  else do
    let c ← readSurrogateMark '\\' c
    let c ← readSurrogateMark 'u' c
    let (low, c) ← readHex c
    if 0xDC00 ≤ low && low ≤ 0xDFFF then .ok (joinSurrogates n low, c) else c.fail .loneSurrogate

def readEscape (c : Cursor) : Except ReadError (Char × Cursor) :=
  match c.rest with
  | [] => c.fail .endOfString
  | x :: _ =>
    match x with
    | '"' => .ok ('"', c.skip)
    | '\\' => .ok ('\\', c.skip)
    | '/' => .ok ('/', c.skip)
    | 'b' => .ok ('\x08', c.skip)
    | 'f' => .ok ('\x0c', c.skip)
    | 'n' => .ok ('\n', c.skip)
    | 'r' => .ok ('\r', c.skip)
    | 't' => .ok ('\t', c.skip)
    | 'u' => readUnicodeEscape c.skip
    | _ => c.failNext .invalidEscape

/-- Reads a string after its opening quote; `fuel` bounds the characters to read and `before` holds
what has been read, backwards. -/
def readString : Nat → List Char → Cursor → Except ReadError (String × Cursor)
  | 0, _, c => c.fail .endOfString
  | fuel + 1, before, c =>
    match c.rest with
    | [] => c.fail .endOfString
    | x :: _ =>
      if x = '"' then .ok (String.ofList before.reverse, c.skip)
      else if x = '\\' then do
        let (y, c) ← readEscape c.skip
        readString fuel (y :: before) c
      else if x.toNat < 0x20 then c.failNext .controlCharacter
      else readString fuel (x :: before) c.skip

/-- What the reader does next inside a bracket. -/
inductive Next where
  | close
  | entry (c : Cursor)

/-- Finds the next item of a list: at once after the bracket, and after a comma later on. -/
def nextItem (first : Bool) (c : Cursor) : Except ReadError Next :=
  let c := c.skipSpace
  match c.rest with
  | [] => c.failNext .endOfList
  | x :: _ =>
    if x = ']' then .ok .close
    else if first then .ok (.entry c)
    else if x = ',' then
      let c := c.skip.skipSpace
      match c.rest with
      | [] => c.failNext .endOfValue
      | y :: _ => if y = ']' then c.failNext .trailingComma else .ok (.entry c)
    else c.failNext .expectedListComma

def nextKey (first : Bool) (c : Cursor) : Except ReadError Next :=
  let c := c.skipSpace
  match c.rest with
  | [] => c.failNext .endOfObject
  | x :: _ =>
    if x = '\x7d' then .ok .close
    else if first then
      if x = '"' then .ok (.entry c) else c.failNext .keyNotString
    else if x = ',' then
      let c := c.skip.skipSpace
      match c.rest with
      | [] => c.failNext .endOfValue
      | y :: _ =>
        if y = '"' then .ok (.entry c)
        else if y = '\x7d' then c.failNext .trailingComma
        else c.failNext .keyNotString
    else c.failNext .expectedObjectComma

/-- Steps over the colon between a key and its value. -/
def readColon (c : Cursor) : Except ReadError Cursor :=
  let c := c.skipSpace
  match c.rest with
  | [] => c.failNext .endOfObject
  | x :: _ => if x = ':' then .ok c.skip else c.failNext .expectedColon

mutual

/-- Reads a value. `depth` is the number of brackets that may not yet be open, and `fuel` bounds
the steps: every step reads a character. -/
def readValue : Nat → Nat → Cursor → Except ReadError (Json × Cursor)
  | 0, _, c => c.fail .endOfValue
  | fuel + 1, depth, c =>
    let c := c.skipSpace
    match c.rest with
    | [] => c.failNext .endOfValue
    | x :: _ =>
      match x with
      | 'n' => readWord .null ['u', 'l', 'l'] c.skip
      | 't' => readWord (.bool true) ['r', 'u', 'e'] c.skip
      | 'f' => readWord (.bool false) ['a', 'l', 's', 'e'] c.skip
      | '-' => readNumber c c.skip
      | '"' => do
        let (text, c) ← readString fuel [] c.skip
        .ok (.string text, c)
      | '[' =>
        if depth ≤ 1 then c.failNext .nesting
        else readItems fuel (depth - 1) [] c.skip
      | '\x7b' =>
        if depth ≤ 1 then c.failNext .nesting
        else readMembers fuel (depth - 1) true [] c.skip
      | _ => if x.isDigit then readNumber c c else c.failNext .expectedValue

/-- Reads the items of a list up to its bracket; `before` holds those read, backwards. -/
def readItems : Nat → Nat → List Json → Cursor → Except ReadError (Json × Cursor)
  | 0, _, _, c => c.fail .endOfList
  | fuel + 1, depth, before, c => do
    match ← nextItem before.isEmpty c with
    | .close => .ok (.array before.reverse, c.skipSpace.skip)
    | .entry c =>
      let (item, c) ← readValue fuel depth c
      readItems fuel depth (item :: before) c

/-- Reads the members of an object up to its bracket. -/
def readMembers : Nat → Nat → Bool → List (String × Json) → Cursor →
    Except ReadError (Json × Cursor)
  | 0, _, _, _, c => c.fail .endOfObject
  | fuel + 1, depth, first, members, c => do
    match ← nextKey first c with
    | .close => .ok (.object members, c.skipSpace.skip)
    | .entry c =>
      let (key, c) ← readString fuel [] c.skip
      let c ← readColon c
      let (value, c) ← readValue fuel depth c
      readMembers fuel depth false (put key value members) c

end

/-- The number of open brackets at which a text is refused. -/
def nestingLimit : Nat := 128

def read (text : String) : Except ReadError Json := do
  let start := Cursor.ofText text
  let (value, c) ← readValue (2 * start.rest.length + 1) nestingLimit start
  let c := c.skipSpace
  match c.rest with
  | [] => .ok value
  | _ :: _ => c.failNext .trailingCharacters

end SampleModels.Json
