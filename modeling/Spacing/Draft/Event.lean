import Spacing.Draft.Rejection

namespace Spacing

inductive Event
  | submitted (selection : Selection) (text : Text)
  | refused (reason : Rejection)
  | absorbed (edit : Edit)
  | joinedLeft (edit : Edit)
  | joinedRight (edit : Edit)
  | stored (edit : Edit)
  | collapsed (start : Nat)
deriving DecidableEq

namespace Event

def message : Event → Text
  | .submitted selection text =>
    "add_change ".toList ++ selection.describe ++ " <- ".toList ++ text.visibleQuoted
  | .refused reason => "change rejected: ".toList ++ reason.message
  | .absorbed e => "absorbing ".toList ++ e.describe
  | .joinedLeft e => "merging ".toList ++ e.describe ++ " on the left".toList
  | .joinedRight e => "merging ".toList ++ e.describe ++ " on the right".toList
  | .stored e => "stored ".toList ++ e.describe
  | .collapsed start =>
    "change at ".toList ++ Text.ofNat start ++ " collapsed to nothing".toList

def integers : Event → List Int
  | submitted selection _ => selection.integers
  | refused reason => reason.integers
  | absorbed e | joinedLeft e | joinedRight e | stored e => e.integers
  | collapsed start => [(start : Int)]

def isWritable (event : Event) : Bool := event.integers.all Text.isWritable

end Event
end Spacing
