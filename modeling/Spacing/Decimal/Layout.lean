import Spacing.Decimal.Shortest

namespace Spacing.Decimal

structure Layout where
  leastPlain : Int
  mostPlain : Int
  exponentDigits : Nat
  notANumber : Text
  infinity : Text

/-- Numbers are written out from a ten-thousandth up to ten to the sixteenth; a number written out
always has a point, so it is not taken for an integer. -/
def standardLayout : Layout :=
  { leastPlain := -4, mostPlain := 15, exponentDigits := 2
    notANumber := "nan".toList, infinity := "inf".toList }

namespace Layout

def zeros (n : Int) : Text := List.replicate n.toNat '0'

def plain (digits : Text) (leading : Int) : Text :=
  let whole := leading + 1
  if whole ≤ 0 then "0.".toList ++ zeros (-whole) ++ digits
  else if digits.length ≤ whole then digits ++ zeros (whole - digits.length) ++ ".0".toList
  else digits.take whole.toNat ++ ['.'] ++ digits.drop whole.toNat

def scientific (layout : Layout) (digits : Text) (leading : Int) : Text :=
  let tail := digits.drop 1
  let power := Text.ofNat leading.natAbs
  digits.take 1 ++ (if tail.isEmpty then [] else '.' :: tail) ++
    ['e', if leading < 0 then '-' else '+'] ++ zeros (layout.exponentDigits - power.length) ++ power

def decimal (layout : Layout) (d : Decimal) : Text :=
  let digits := ((Text.ofNat d.digits).reverse.dropWhile (· == '0')).reverse
  if layout.leastPlain ≤ d.leading ∧ d.leading ≤ layout.mostPlain then plain digits d.leading
  else layout.scientific digits d.leading

def float (layout : Layout) (x : Float) : Text :=
  let magnitude := x.toBits &&& 0x7FFFFFFFFFFFFFFF
  let sign : Text := if x.toBits = magnitude then [] else ['-']
  if x.isNaN then layout.notANumber
  else if x.isInf then sign ++ layout.infinity
  else if magnitude = 0 then sign ++ "0.0".toList
  else sign ++ layout.decimal (RoundingSpan.ofBits magnitude).shortest

end Layout
end Spacing.Decimal
