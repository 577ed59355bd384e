import Spacing.Text.Blank

namespace Spacing

inductive Target
  | nonBlank
  | lineBreak
  | either
deriving DecidableEq

def Target.accepts : Target → Char → Bool
  | .nonBlank, c => !isBlank c
  | .lineBreak, c => isLineBreak c
  | .either, c => isLineBreak c || !isBlank c

inductive Mark
  | nonBlank
  | lineBreak
deriving DecidableEq

def Mark.of (c : Char) : Mark := if isLineBreak c then .lineBreak else .nonBlank

end Spacing
