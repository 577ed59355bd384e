import Spacing.Text.Basic

namespace Spacing

structure Decimal where
  digits : Nat
  exponent : Int
deriving DecidableEq

namespace Decimal

def powerOfTen (n : Nat) : Nat := Nat.pow 10 n

def leading (d : Decimal) : Int := d.exponent + (Text.ofNat d.digits).length - 1

/-- Every number from `10 ^ 310` on rounds to infinity and every one below `10 ^ (-400)` to zero, so
no power of ten beyond these is built. -/
def toFloat (d : Decimal) : Float :=
  if d.digits = 0 then 0
  else if 310 ≤ d.leading then 1 / 0
  else if d.leading < -400 then 0
  else if 0 ≤ d.exponent then Float.ofScientific (d.digits * powerOfTen d.exponent.toNat) false 0
  else Float.ofScientific d.digits true (-d.exponent).toNat

end Decimal
end Spacing
