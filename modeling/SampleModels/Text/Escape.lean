import SampleModels.Text.Hidden

/-!
# Escaped text

Two ways to write a text between double quotes. `quoted` is for messages and escapes whatever does
not show. `literalBody` is for string literals of generated source and escapes only what would end
the literal or break its line.
-/

namespace SampleModels.Text

/-- Whether the character is a control character of either control block. -/
def isControl (c : Char) : Bool := c.toNat < 0x20 || (0x7F ≤ c.toNat && c.toNat ≤ 0x9F)

/-- A character by its code point, in lowercase hexadecimal between braces. -/
def codeEscape (c : Char) : List Char :=
  '\\' :: 'u' :: '\x7b' :: (Nat.toDigits 16 c.toNat ++ ['\x7d'])

def quotedChar (c : Char) : List Char :=
  if c = '\x00' then ['\\', '0']
  else if c = '\t' then ['\\', 't']
  else if c = '\r' then ['\\', 'r']
  else if c = '\n' then ['\\', 'n']
  else if c = '"' then ['\\', '"']
  else if c = '\\' then ['\\', '\\']
  else if isHidden c then codeEscape c
  else [c]

/-- A text in double quotes, with every character in it visible. -/
def quoted (text : String) : String :=
  String.ofList ('"' :: (text.toList.flatMap quotedChar ++ ['"']))

def literalChar (c : Char) : List Char :=
  if c = '\\' then ['\\', '\\']
  else if c = '"' then ['\\', '"']
  else if c = '\n' then ['\\', 'n']
  else if c = '\r' then ['\\', 'r']
  else if c = '\t' then ['\\', 't']
  else if isControl c then codeEscape c
  else [c]

/-- What stands between the quotes of the string literal that denotes `text`. -/
def literalBody (text : String) : String := String.ofList (text.toList.flatMap literalChar)

end SampleModels.Text
