import Spacing.Text.Basic

namespace Spacing.Yaml

structure Version where
  major : Nat
  minor : Nat
deriving DecidableEq

namespace Version

def standard : Version := ⟨1, 2⟩

/-- The version before the standard one, in which more words are truth values and more texts are
numbers. -/
def early : Version := ⟨1, 1⟩

def isEarly (v : Version) : Bool := v == early

def isKnown (v : Version) : Bool := v == standard || v == early

def isLate (v : Version) : Bool := 1 < v.major || v.major == 1 && 1 < v.minor

def plain (v : Version) : Text :=
  '(' :: Text.ofNat v.major ++ [',', ' '] ++ Text.ofNat v.minor ++ [')']

end Version
end Spacing.Yaml
