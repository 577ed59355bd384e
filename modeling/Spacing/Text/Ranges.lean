import Spacing.PartitionPoint

namespace Spacing

abbrev CodeRanges := Array (Nat × Nat)

def CodeRanges.hold (ranges : CodeRanges) (c : Char) : Bool :=
  match ranges[partitionPoint ranges fun range => range.2 < c.toNat]? with
  | none => false
  | some range => range.1 ≤ c.toNat

end Spacing
