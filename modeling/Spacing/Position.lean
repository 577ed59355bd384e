import Spacing.Edit

/-! A position in the edited text is a base character that survives, or a character of one edit's
text; the offset past the last character is a position too. Positions are values and know nothing
of the text they point into: whether one exists is a question for a draft. -/
namespace Spacing

inductive Position
  | base (offset : Nat)
  | within (edit : Edit) (offset : Nat)
deriving DecidableEq

namespace Position

def describe : Position → Text
  | .base offset => "base@".toList ++ Text.ofNat offset
  | .within e offset =>
    "edit[".toList ++ Text.ofNat e.start ++ [':'] ++ Text.ofNat e.stop ++ "]@".toList ++
      Text.ofNat offset

def integers : Position → List Int
  | .base offset => [(offset : Int)]
  | .within e offset => e.integers ++ [(offset : Int)]

inductive Fault
  | negative (offset : Int)
  | outside (edit : Edit) (offset : Int)
deriving DecidableEq

def Fault.message : Fault → Text
  | .negative offset =>
    Text.telling [offset]
      ("Invalid position: offset (".toList ++ Text.ofInt offset ++ ") is negative".toList)
  | .outside e offset =>
    Text.telling (offset :: e.text.length :: e.integers)
      ("Invalid position: offset (".toList ++ Text.ofInt offset ++ ") outside [0, ".toList ++
        Text.ofNat e.text.length ++ "] for ".toList ++ e.describe)

/-- The base has no length here, so only the sign is checked. -/
def inBase (offset : Int) : Except Fault Position :=
  if offset < 0 then .error (.negative offset) else .ok (.base offset.toNat)

def inEdit (e : Edit) (offset : Int) : Except Fault Position :=
  if 0 ≤ offset ∧ offset ≤ e.text.length then .ok (.within e offset.toNat)
  else .error (.outside e offset)

end Position

structure Range where
  start : Position
  stop : Position
deriving DecidableEq

namespace Range

def describe (r : Range) : Text := r.start.describe ++ "..".toList ++ r.stop.describe

def integers (r : Range) : List Int := r.start.integers ++ r.stop.integers

/-- Empty by the names of its ends; one place may have two names. -/
def isEmpty (r : Range) : Bool := r.start == r.stop

def inEdit (e : Edit) (start stop : Int) : Except Position.Fault Range := do
  return ⟨← Position.inEdit e start, ← Position.inEdit e stop⟩

end Range

/-- A range whose ends may be missing, as a caller may submit it. -/
structure Selection where
  start : Option Position
  stop : Option Position
deriving DecidableEq

namespace Selection

def describeEnd : Option Position → Text
  | none => "None".toList
  | some p => p.describe

def describe (s : Selection) : Text :=
  describeEnd s.start ++ "..".toList ++ describeEnd s.stop

def integers (s : Selection) : List Int :=
  s.start.elim [] Position.integers ++ s.stop.elim [] Position.integers

def isEmpty (s : Selection) : Bool := s.start == s.stop

end Selection

def Range.toSelection (r : Range) : Selection := ⟨some r.start, some r.stop⟩

instance : Coe Range Selection := ⟨Range.toSelection⟩

theorem Range.toSelection_inj {r s : Range} : r.toSelection = s.toSelection ↔ r = s := by
  cases r
  cases s
  simp [toSelection]

end Spacing
