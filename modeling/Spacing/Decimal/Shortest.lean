import Spacing.Decimal.Basic

/-! The shortest decimal that reads back as a given double-precision number, and of several as short
the nearest to it. Everything is compared in exact natural number arithmetic. -/
namespace Spacing

/-- The reals that round to a positive number, as fractions over `2 ^ scale`: they run from `low` to
`high`, the ends included if `closed`. -/
structure RoundingSpan where
  low : Nat
  value : Nat
  high : Nat
  scale : Nat
  closed : Bool
deriving DecidableEq

namespace RoundingSpan

open Decimal (powerOfTen)

/-- The span of the finite number with these bits, its sign apart. It reaches half way to either
neighbour, of which the lower is half as far away below a power of two. Ties round to the even
fraction, so the ends belong to the span of an even one. -/
def ofBits (bits : UInt64) : RoundingSpan :=
  let stored := ((bits >>> 52) &&& 0x7FF).toNat
  let fraction := (bits &&& 0xFFFFFFFFFFFFF).toNat
  let mantissa := if stored = 0 then fraction else 0x10000000000000 + fraction
  let exponent := max stored 1
  let narrow := fraction = 0 ∧ 1 < stored
  let shift := exponent - 1077
  { low := (4 * mantissa - if narrow then 1 else 2) <<< shift
    value := (4 * mantissa) <<< shift
    high := (4 * mantissa + 2) <<< shift
    scale := 1077 - exponent
    closed := mantissa % 2 = 0 }

def holds (s : RoundingSpan) (d : Decimal) : Bool :=
  let point := (d.digits * powerOfTen d.exponent.toNat) <<< s.scale
  let unit := powerOfTen (-d.exponent).toNat
  if s.closed then s.low * unit ≤ point && point ≤ s.high * unit
  else s.low * unit < point && point < s.high * unit

def exact (s : RoundingSpan) : Decimal := ⟨s.value * Nat.pow 5 s.scale, -s.scale⟩

def nearer (s : RoundingSpan) (below above : Decimal) : Decimal :=
  let double := 2 * s.value * powerOfTen (-below.exponent).toNat
  let middle := ((below.digits + above.digits) * powerOfTen below.exponent.toNat) <<< s.scale
  if double < middle then below
  else if middle < double then above
  else if below.digits % 2 = 0 then below else above

/-- The best decimal with this exponent, if one lies in the span. If any does, then so does one of
the two between which the number lies. -/
def onGrid (s : RoundingSpan) (exponent : Int) : Option Decimal :=
  let floor := s.value * powerOfTen (-exponent).toNat / (powerOfTen exponent.toNat <<< s.scale)
  let below : Decimal := ⟨floor, exponent⟩
  let above : Decimal := ⟨floor + 1, exponent⟩
  match s.holds below, s.holds above with
  | true, true => some (s.nearer below above)
  | true, false => some below
  | false, true => some above
  | false, false => none

/-- Seventeen digits are enough for every double; past them the number is given as it is. -/
def shortest (s : RoundingSpan) : Decimal :=
  ((List.range 17).findSome? fun more : Nat => s.onGrid (s.exact.leading - more)).getD s.exact

end RoundingSpan
end Spacing
