import Spacing.Config.Basic
import Spacing.Patch.Basic
import Spacing.Position

/-! Why a submission fails. A rejection is the caller's to mend, and each cause has its own
constructor; the other failures name a missing end or a part that could not be built, or tell that a
rejection names an integer too long to be written. -/
namespace Spacing

inductive Rejection
  | pastEnd (offset length : Nat)
  | replaced (offset : Nat) (edit : Edit)
  | notCurrent (edit : Edit) (offset : Nat)
  | outOfText (edit : Edit) (offset : Nat)
  | stopsInsideEdit (edit : Edit) (offset : Nat)
  | reversed (range : Range)
  | notBlank (text : Text)
  | coversNonBlank (range : Range)
  | startsInsideEdit (edit : Edit) (offset : Nat)
  | spansEdits (range : Range)
  | severalInside (lo hi count : Nat)
deriving DecidableEq

namespace Rejection

inductive Kind
  | position
  | range
  | nonBlank
  | intersection
deriving DecidableEq

def kind : Rejection → Kind
  | pastEnd .. | replaced .. | notCurrent .. | outOfText .. | stopsInsideEdit .. => .position
  | reversed .. => .range
  | notBlank .. | coversNonBlank .. => .nonBlank
  | startsInsideEdit .. | spansEdits .. | severalInside .. => .intersection

def message : Rejection → Text
  | pastEnd offset length =>
    (Position.base offset).describe ++ " is past the end of the text (".toList ++
      Text.ofNat length ++ [')']
  | replaced offset e =>
    (Position.base offset).describe ++ " lies inside ".toList ++ e.describe
  | notCurrent e offset =>
    (Position.within e offset).describe ++ " refers to ".toList ++ e.describe ++
      ", which is not a current change".toList
  | outOfText e offset =>
    (Position.within e offset).describe ++ " is outside the change text".toList
  | stopsInsideEdit e offset =>
    (Position.within e offset).describe ++
      ": a range starting in base text may only end at the start of a change".toList
  | reversed range => "Range end precedes its start: ".toList ++ range.describe
  | notBlank text =>
    "Replacement text ".toList ++ text.visibleQuoted ++ " is not whitespace".toList
  | coversNonBlank range =>
    "Range ".toList ++ range.describe ++ " covers non-whitespace text".toList
  | startsInsideEdit e offset =>
    (Position.within e offset).describe ++
      ": a range ending in base text must start at the beginning of a change".toList
  | spansEdits range =>
    "Range ".toList ++ range.describe ++ " spans more than one change".toList
  | severalInside lo hi count =>
    "Base range [".toList ++ Text.ofNat lo ++ ", ".toList ++ Text.ofNat hi ++
      ") contains ".toList ++ Text.ofNat count ++ " changes; at most one can be replaced".toList

def integers : Rejection → List Int
  | pastEnd offset length => [(offset : Int), (length : Int)]
  | replaced offset e => (offset : Int) :: e.integers
  | notCurrent e offset | outOfText e offset | stopsInsideEdit e offset
  | startsInsideEdit e offset => (Position.within e offset).integers
  | reversed range | coversNonBlank range | spansEdits range => range.integers
  | notBlank _ => []
  | severalInside lo hi count => [(lo : Int), (hi : Int), (count : Int)]

def isWritable (reason : Rejection) : Bool := reason.integers.all Text.isWritable

end Rejection

inductive Failure
  | rejected (reason : Rejection)
  | unwritable
  | missingEnd
  | tabWidth (fault : TabWidth.Fault)
  | edit (fault : Edit.Fault)
  | position (fault : Position.Fault)
  | patch (fault : Patch.Fault)
deriving DecidableEq

def Failure.message : Failure → Text
  | .rejected reason => reason.message
  | .unwritable => Text.unwritableMessage
  | .missingEnd => "Unsupported position type: NoneType".toList
  | .tabWidth fault => fault.message
  | .edit fault => fault.message
  | .position fault => fault.message
  | .patch fault => fault.message

/-- Whatever was to be told, it is an integer that cannot be written. -/
def Rejection.failure (reason : Rejection) : Failure :=
  if reason.isWritable then .rejected reason else .unwritable

end Spacing
