import SampleModels.Json.Basic

/-!
# Pointers into a document

A pointer names a place in a document by the reference tokens on the way to it: keys of objects,
and decimal numerals for the elements of arrays. In its text each token follows a slash; inside a
token `~0` stands for a tilde and `~1` for a slash. `ofText?` reads the text back.
-/

namespace SampleModels

/-- One step into a document. -/
inductive Segment where
  | key (name : String)
  | index (n : Nat)
deriving DecidableEq

def Segment.token : Segment → String
  | .key name => name
  | .index n => toString n

/-- A place in a document: the reference tokens from the root inwards. -/
structure Pointer where
  tokens : List String
deriving DecidableEq

namespace Pointer

def root : Pointer := ⟨[]⟩

def push (p : Pointer) (segment : Segment) : Pointer := ⟨p.tokens ++ [segment.token]⟩

def child (p : Pointer) (key : String) : Pointer := p.push (.key key)

def element (p : Pointer) (n : Nat) : Pointer := p.push (.index n)

def ofSegments (segments : List Segment) : Pointer := segments.foldl push root

def escapeChar (c : Char) : List Char :=
  if c = '~' then ['~', '0'] else if c = '/' then ['~', '1'] else [c]

def chars (p : Pointer) : List Char :=
  p.tokens.flatMap fun token => '/' :: token.toList.flatMap escapeChar

def text (p : Pointer) : String := String.ofList p.chars

/-- Replaces each tilde with `digit` behind it by `value`. -/
def replaceEscape (digit value : Char) : List Char → List Char
  | [] => []
  | [c] => [c]
  | c :: d :: rest =>
    if c = '~' ∧ d = digit then value :: replaceEscape digit value rest
    else c :: replaceEscape digit value (d :: rest)

/-- The reference token that a part of the text stands for. Slashes come back first, so that `~01`
is a tilde and a one. -/
def unescape (part : List Char) : String :=
  String.ofList (replaceEscape '0' '~' (replaceEscape '1' '/' part))

/-- Reads a pointer's text: it is empty or starts with a slash. -/
def ofText? (text : String) : Option Pointer :=
  match text.toList.splitOn '/' with
  | [] :: parts => some ⟨parts.map unescape⟩
  | _ => none

def resolve? (p : Pointer) (document : Json) : Option Json := document.resolve? p.tokens

theorem ofSegments_tokens (segments : List Segment) :
    (ofSegments segments).tokens = segments.map Segment.token := by
  suffices h : ∀ p : Pointer, (segments.foldl push p).tokens = p.tokens ++
      segments.map Segment.token by simpa [ofSegments, root] using h root
  induction segments with
  | nil => simp
  | cons s rest ih => intro p; simp [ih, push]

end Pointer

end SampleModels
