import SampleModels.Receiver

/-!
# Sinks

A sink takes bytes until its room is used up. Bytes that are too many for it are taken in part, and
whatever is offered after that is refused.
-/

namespace SampleModels

/-- A receiver with room for a number of bytes. -/
structure Sink where
  /-- The bytes taken so far. -/
  accepted : Bytes := []
  /-- How many more bytes it takes; without a number, all. -/
  room? : Option Nat := none
  /-- How it fails when its room is used up. -/
  fullError : IoError := .nothingWritten
  /-- How it fails to flush, if it does. -/
  flushError? : Option IoError := none
deriving DecidableEq

namespace Sink

/-- Takes the bytes, or as many as there is room for. -/
def offer (s : Sink) (bytes : Bytes) : Sink × Except IoError Nat :=
  match s.room? with
  | none => ({ s with accepted := s.accepted ++ bytes }, .ok bytes.length)
  | some 0 => (s, .error s.fullError)
  | some n =>
    ({ s with accepted := s.accepted ++ bytes.take n, room? := some (n - bytes.length) },
      .ok (min n bytes.length))

def flush (s : Sink) : Sink × Except IoError Unit :=
  (s, match s.flushError? with
    | none => .ok ()
    | some error => .error error)

instance : Receiver Sink := ⟨offer, flush⟩

end Sink

end SampleModels
