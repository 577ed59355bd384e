import Spacing.Patch.Basic

/-! Lookups by offset. Each finds one candidate by its start and looks at no other edit, which is
complete where edits keep apart; a patch of overlapping edits may hold further answers. -/
namespace Spacing.Patch

/-- The last edit that starts at the offset or before it. -/
def floor? (p : Patch) (offset : Int) : Option Edit :=
  match p.upperBound offset with
  | 0 => none
  | count + 1 => p.edits[count]?

def ceiling? (p : Patch) (offset : Int) : Option Edit := p.edits[p.lowerBound offset]?

def higher? (p : Patch) (offset : Int) : Option Edit := p.edits[p.upperBound offset]?

def replacing? (p : Patch) (offset : Int) : Option Edit :=
  (p.floor? offset).filter fun e => e.replaces offset

def stoppingAt? (p : Patch) (offset : Int) : Option Edit :=
  (p.floor? offset).filter fun e => (e.stop : Int) == offset

def spanning? (p : Patch) (offset : Int) : Option Edit :=
  (p.floor? offset).filter fun e => e.spans offset

def between (p : Patch) (lo hi : Int) : List Edit :=
  (p.edits.extract (p.lowerBound lo) (p.upperBound hi)).toList.filter fun e => (e.stop : Int) ≤ hi

end Spacing.Patch
