import Spacing.Patch.Lookup
import Spacing.Position

/-! The edited text without building it. A range is cut into segments in reading order: the rest of
the edit that holds its start, base slices and the edits between them, and the head of the edit that
holds its end. A segment's characters all live in the base or all in one edit. -/
namespace Spacing

structure Segment where
  text : Text
  origin : Nat
  source : Option Edit
deriving DecidableEq

namespace Segment

def position (s : Segment) (index : Nat) : Position :=
  match s.source with
  | none => .base (s.origin + index)
  | some e => .within e (s.origin + index)

def buildPosition (s : Segment) (index : Nat) : Except Position.Fault Position :=
  match s.source with
  | none => Position.inBase (s.origin + index : Nat)
  | some e => Position.inEdit e (s.origin + index : Nat)

def ofBase (base : Text) (start stop : Nat) : Segment := ⟨base.slice start stop, start, none⟩

def ofEdit (e : Edit) (start stop : Nat) : Segment := ⟨e.text.slice start stop, start, some e⟩

def alternate (base : Text) (stop cursor : Nat) : List Edit → List Segment
  | [] => [ofBase base cursor stop]
  | e :: rest =>
    ofBase base cursor e.start :: ofEdit e 0 e.text.length :: alternate base stop e.stop rest

/-- Where the base text of a range begins, with the segment before it. -/
def opening : Position → Nat × List Segment
  | .base offset => (offset, [])
  | .within e offset => (e.stop, [ofEdit e offset e.text.length])

def closing : Position → Nat × List Segment
  | .base offset => (offset, [])
  | .within e offset => (e.start, [ofEdit e 0 offset])

/-- The whole edits of a range. An insertion at the first base position lies before the range; one
at the last belongs to it when the range ends in base text. -/
def inner (pending : Patch) (cursor stop : Nat) : Position → List Edit
  | .base _ => (pending.between cursor stop).filter fun e => cursor < e.start
  | .within _ _ =>
    (pending.between cursor stop).filter fun e => cursor < e.start && e.start < stop

def across (base : Text) (pending : Patch) (r : Range) : List Segment :=
  let first := opening r.start
  let last := closing r.stop
  first.2 ++ alternate base last.1 first.1 (inner pending first.1 last.1 r.stop) ++ last.2

/-- The segments of a valid range; none of them is empty, a range inside one edit apart. -/
def ofRange (base : Text) (pending : Patch) (r : Range) : List Segment :=
  match r.start, r.stop with
  | .within e lo, .within f hi =>
    if e = f then [ofEdit e lo hi]
    else (across base pending r).filter fun s => !s.text.isEmpty
  | _, _ => (across base pending r).filter fun s => !s.text.isEmpty

def textOf (segments : List Segment) : Text := segments.flatMap Segment.text

end Segment
end Spacing
