import Spacing.Draft.Basic
import Spacing.Target

namespace Spacing

structure Hit where
  position : Position
  mark : Mark
deriving DecidableEq

namespace Draft

def search (d : Draft) (s : Selection) (target : Target) (direction : Direction) :
    Except Failure (Option Hit) := do
  let some r ← d.valid? s | return none
  let some v := (Segment.walk (d.segments r) direction).find? fun v => target.accepts v.char
    | return none
  let position ← (v.segment.buildPosition v.index).mapError Failure.position
  return some ⟨position, Mark.of v.char⟩

def lineBreaks (d : Draft) (s : Selection) : Except Failure Nat := do
  let some r ← d.valid? s | return 0
  return Segment.count (d.segments r) isLineBreak

/-- Without a tab width of its own the draft's is taken. The width is checked before the range. -/
def blankColumns (d : Draft) (s : Selection) (tabWidth : Option Int) : Except Failure Nat := do
  let width ←
    match tabWidth with
    | none => pure d.config.tabWidth
    | some columns => (TabWidth.of columns).mapError Failure.tabWidth
  let some r ← d.valid? s | return 0
  return Segment.blankColumns (d.segments r) width

def editAt? (d : Draft) (offset : Int) : Option Edit := d.pending.spanning? offset

end Draft
end Spacing
