/-!
# Which numbers are in range

A number is read as a significand of at most 64 bits times a power of ten, and both factors are
rounded to the nearest binary64 number before they are multiplied. The number is in range when the
product does not round to infinity. Everything is decided on natural numbers.
-/

namespace SampleModels.Json

/-- The largest significand; further digits only move the exponent. -/
def maxSignificand : Nat := Nat.pow 2 64 - 1

/-- The natural number nearest to `n` that has at most 53 significant bits; a tie goes to the even
neighbour. -/
def roundTo53Bits (n : Nat) : Nat :=
  let shift := n.log2 - 52
  let unit := Nat.pow 2 shift
  let below := n / unit * unit
  let excess := 2 * (n % unit)
  if excess < unit || (excess == unit && n / unit % 2 == 0) then below else below + unit

/-- A decimal number as it is read: `significand · 10 ^ exponent`. `full` is set once a digit was
too many for the significand. -/
structure Decimal where
  significand : Nat
  exponent : Int
  full : Bool
deriving DecidableEq

namespace Decimal

def zero : Decimal := ⟨0, 0, false⟩

def pushInteger (d : Decimal) (digit : Nat) : Decimal :=
  if d.full || d.significand * 10 + digit > maxSignificand then
    { d with exponent := d.exponent + 1, full := true }
  else
    { d with significand := d.significand * 10 + digit }

def pushFraction (d : Decimal) (digit : Nat) : Decimal :=
  if d.full || d.significand * 10 + digit > maxSignificand then
    { d with full := true }
  else
    { d with significand := d.significand * 10 + digit, exponent := d.exponent - 1 }

/-- Whether the number is finite in binary64. The greatest finite number is `2 ^ 1024 - 2 ^ 971`,
and what is at least half a step above it rounds to infinity. -/
def inRange (d : Decimal) : Bool :=
  if d.significand = 0 || d.exponent < 0 then true
  else if d.exponent > 308 then false
  else
    roundTo53Bits d.significand * roundTo53Bits (Nat.pow 10 d.exponent.toNat) <
      Nat.pow 2 1024 - Nat.pow 2 970

end Decimal

end SampleModels.Json
