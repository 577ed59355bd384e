import Spacing.Text.Blank
import Spacing.Text.Visible

/-! An edit replaces the slice `[start, stop)` of the base text by a blank text. Edits are values:
a changed edit is another edit. The order of edits looks at their starts alone. -/
namespace Spacing

@[ext]
structure Edit where
  start : Nat
  stop : Nat
  text : Text
  start_le_stop : start ≤ stop
  blank : text.IsBlank
deriving DecidableEq

namespace Edit

def describe (e : Edit) : Text :=
  "TextEdit(".toList ++ Text.ofNat e.start ++ ", ".toList ++ Text.ofNat e.stop ++ ", ".toList ++
    e.text.visibleQuoted ++ [')']

def integers (e : Edit) : List Int := [e.start, e.stop]

inductive Fault
  | negativeStart (start : Int)
  | reversed (start stop : Int)
  | notBlank (text : Text)
  | apart (first second : Edit)
  | noSecond
deriving DecidableEq

def Fault.message : Fault → Text
  | .negativeStart start =>
    Text.telling [start]
      ("Invalid edit: start (".toList ++ Text.ofInt start ++ ") is negative".toList)
  | .reversed start stop =>
    Text.telling [start, stop]
      ("Invalid edit: start (".toList ++ Text.ofInt start ++ ") > end (".toList ++
        Text.ofInt stop ++ [')'])
  | .notBlank text =>
    "Invalid edit: text ".toList ++ text.visibleQuoted ++ " is not whitespace".toList
  | .apart first second =>
    Text.telling (first.integers ++ second.integers)
      ("Cannot merge ".toList ++ first.describe ++ " with non-adjacent ".toList ++
        second.describe)
  | .noSecond =>
    "\x27<\x27 not supported between instances of \x27TextEdit\x27 and \x27NoneType\x27".toList

/-- The bounds are checked before the text, the sign of the start first. -/
def of (start stop : Int) (text : Text) : Except Fault Edit :=
  if negative : start < 0 then .error (.negativeStart start)
  else if crossed : stop < start then .error (.reversed start stop)
  else if blank : text.IsBlank then
    .ok ⟨start.toNat, stop.toNat, text, by omega, blank⟩
  else .error (.notBlank text)

instance : LT Edit := ⟨fun a b => a.start < b.start⟩

instance (a b : Edit) : Decidable (a < b) := inferInstanceAs (Decidable (a.start < b.start))

def sort (edits : List Edit) : List Edit := edits.mergeSort fun a b => decide (a.start ≤ b.start)

def shrinkage (e : Edit) : Int := (e.stop : Int) - e.start - e.text.length

def isInsertion (e : Edit) : Bool := e.start == e.stop

def isVoid (e : Edit) : Bool := e.isInsertion && e.text.isEmpty

def spans (e : Edit) (offset : Int) : Bool := e.start ≤ offset && offset ≤ e.stop

def replaces (e : Edit) (offset : Int) : Bool := e.start ≤ offset && offset < e.stop

def touches (a b : Edit) : Bool := a.stop == b.start || b.stop == a.start

def join (a b : Edit) : Except Fault Edit :=
  if adjacent : a.stop = b.start then
    .ok ⟨a.start, b.stop, a.text ++ b.text,
      Nat.le_trans a.start_le_stop (adjacent ▸ b.start_le_stop),
      Text.isBlank_append.2 ⟨a.blank, b.blank⟩⟩
  else .error (.apart a b)

structure Comparison where
  less : Bool
  greater : Bool
  equal : Bool
  touching : Bool
  joined : Except Fault Edit

def compare (a : Edit) : Option Edit → Except Fault Comparison
  | none => .error .noSecond
  | some b => .ok
    { less := decide (a < b), greater := decide (b < a), equal := a == b
      touching := a.touches b, joined := a.join b }

end Edit
end Spacing
