import Spacing.Text.Basic

namespace Spacing.Base64

def digit? (c : Char) : Option Nat :=
  if c.isUpper then some (c.toNat - 65)
  else if c.isLower then some (c.toNat - 71)
  else if c.isDigit then some (c.toNat + 4)
  else if c = '+' then some 62
  else if c = '/' then some 63
  else none

/-- In a group of which `place` digits have been read, `bits` are those that fill no byte yet, and
`marks` have followed the last digit. What is neither digit nor mark is passed over, and nothing is
read behind the marks that fill up a group. There are no bytes if a group remains open. -/
def decodeFrom (place bits marks : Nat) : Text → Option (List UInt8)
  | [] => if place = 0 then some [] else none
  | c :: rest =>
    match digit? c with
    | none =>
      if c != '=' then decodeFrom place bits marks rest
      else if 2 ≤ place && 3 ≤ place + marks then some []
      else decodeFrom place bits (marks + 1) rest
    | some digit =>
      match place with
      | 0 => decodeFrom 1 digit 0 rest
      | 1 => (UInt8.ofNat (bits * 4 + digit / 16) :: ·) <$> decodeFrom 2 (digit % 16) 0 rest
      | 2 => (UInt8.ofNat (bits * 16 + digit / 4) :: ·) <$> decodeFrom 3 (digit % 4) 0 rest
      | _ => (UInt8.ofNat (bits * 64 + digit) :: ·) <$> decodeFrom 0 0 0 rest

def decode (text : Text) : Option (List UInt8) := decodeFrom 0 0 0 text

end Spacing.Base64
