import SampleModels.Bytes
import SampleModels.IoError

/-!
# Receivers of bytes

A receiver is offered bytes and takes some of them, from the front, or fails. What it has left is
offered again until nothing is left, so it may take a text in pieces of any size. A receiver that
takes none of the bytes offered has failed, too.
-/

namespace SampleModels

/-- Something that bytes are written to. -/
class Receiver (σ : Type) where
  /-- Offers bytes: how many of them were taken, or why none were. -/
  offer : σ → Bytes → σ × Except IoError Nat
  flush : σ → σ × Except IoError Unit

namespace Receiver

variable {σ : Type} [Receiver σ]

/-- Offers bytes until all of them have been taken. -/
def write (s : σ) : Bytes → σ × Except IoError Unit
  | [] => (s, .ok ())
  | byte :: rest =>
    match offer s (byte :: rest) with
    | (s, .error error) => (s, .error error)
    | (s, .ok 0) => (s, .error .nothingWritten)
    | (s, .ok (n + 1)) => write s (rest.drop n)
termination_by bytes => bytes.length
decreasing_by
  simp only [List.length_drop, List.length_cons]
  omega

/-- Writes pieces in turn, up to the first failure. -/
def writeAll (s : σ) : List Bytes → σ × Except IoError Unit
  | [] => (s, .ok ())
  | piece :: rest =>
    match write s piece with
    | (s, .ok ()) => writeAll s rest
    | (s, .error error) => (s, .error error)

/-- Writes pieces in turn and flushes, up to the first failure. -/
def deliver (s : σ) (pieces : List Bytes) : σ × Except IoError Unit :=
  match writeAll s pieces with
  | (s, .ok ()) => flush s
  | (s, .error error) => (s, .error error)

end Receiver

end SampleModels
