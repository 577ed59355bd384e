import Spacing.Text.Basic

namespace Spacing

inductive CodePoint
  | char (c : Char)
  | surrogate (place : Fin 0x800)
deriving DecidableEq

def CodePoint.ofNat? (n : Nat) : Option CodePoint :=
  if n.isValidChar then some (.char (Char.ofNat n))
  else if surrogate : 0xD800 ≤ n ∧ n < 0xE000 then some (.surrogate ⟨n - 0xD800, by omega⟩)
  else none

def CodePoint.toNat : CodePoint → Nat
  | char c => c.toNat
  | surrogate place => 0xD800 + place

abbrev WideText := List CodePoint

def Text.wide (text : Text) : WideText := text.map CodePoint.char

def WideText.narrow? (text : WideText) : Option Text :=
  text.mapM fun p => match p with | .char c => some c | .surrogate _ => none

end Spacing
