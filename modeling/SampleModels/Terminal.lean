/-!
# Plain text from terminal output

Messages are written with escape sequences that set colours. Where there are no colours the
sequences are left out, and with them whatever in the text looks like one. The scanner follows the
states of a video terminal: after an escape character come control sequences, device control
strings, operating system commands and other control strings, each with an end of its own.
-/

namespace SampleModels.Terminal

def escapeChar : Char := '\x1b'

/-- Where the scanner is. -/
inductive State where
  | ground
  | escape
  | escapeIntermediate
  | controlSequence
  | deviceEntry
  | deviceParameters
  | deviceIntermediate
  /-- In a string that a string terminator ends. -/
  | controlString
  | systemCommand
deriving DecidableEq

/-- Whether the UTF-8 form of the character has the byte of the string terminator. -/
def hasTerminatorByte (c : Char) : Bool :=
  0x80 ≤ c.toNat && (String.singleton c).toUTF8.data.any (· == 0x9C)

def within (first last c : Char) : Bool := first ≤ c && c ≤ last

/-- The state after a character that is not shown. -/
def State.next (s : State) (c : Char) : State :=
  if c = escapeChar then .escape
  else if c = '\x18' || c = '\x1a' then .ground
  else match s with
    | .ground => .ground
    | .escape =>
      if within ' ' '/' c then .escapeIntermediate
      else if c = '[' then .controlSequence
      else if c = ']' then .systemCommand
      else if c = 'P' then .deviceEntry
      else if c = 'X' || c = '^' || c = '_' then .controlString
      else if within '0' '~' c then .ground
      else .escape
    | .escapeIntermediate => if within '0' '~' c then .ground else .escapeIntermediate
    | .controlSequence => if within '@' '~' c then .ground else .controlSequence
    | .deviceEntry =>
      if within ' ' '/' c then .deviceIntermediate
      else if within '0' '?' c then .deviceParameters
      else if within '@' '~' c then .controlString
      else .deviceEntry
    | .deviceParameters =>
      if within ' ' '/' c then .deviceIntermediate
      else if within '<' '~' c then .controlString
      else .deviceParameters
    | .deviceIntermediate => if within '0' '~' c then .controlString else .deviceIntermediate
    | .controlString => if hasTerminatorByte c then .ground else .controlString
    | .systemCommand => if c = '\x07' then .ground else .systemCommand

/-- The control characters that are shown: those that move the cursor like a blank. -/
def isShownControl (c : Char) : Bool := c == '\t' || c == '\n' || c == '\x0c' || c == '\r'

/-- Whether a character outside of all sequences is shown. -/
def isShown (c : Char) : Bool := within ' ' '~' c || 0x80 ≤ c.toNat || isShownControl c

/-- Whether a character inside a sequence is shown all the same. -/
def State.passes (s : State) (c : Char) : Bool :=
  match s with
  | .ground => isShown c
  | .escape | .escapeIntermediate | .controlSequence => isShownControl c
  | _ => false

/-- Leaves out what is not shown. A blank that is shown inside a sequence, and what is shown right
after it, do not belong to the sequence: `showing` says that the last character was shown. -/
def scan (s : State) (showing : Bool) : List Char → List Char
  | [] => []
  | c :: rest =>
    if (showing && isShown c) || s.passes c then
      c :: scan (if 0x80 ≤ c.toNat then .ground else s) true rest
    else scan (s.next c) false rest

def plain (text : String) : String := String.ofList (scan .ground false text.toList)

def styled (text : String) : String := "\x1b[33m" ++ text ++ "\x1b[0m"

end SampleModels.Terminal
