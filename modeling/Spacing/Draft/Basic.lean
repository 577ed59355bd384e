import Spacing.Anchor
import Spacing.Draft.Rejection
import Spacing.Segment.Walk

/-! A draft is a base text that never changes and the edits pending against it. A position exists in
a draft if it names a base character that no edit replaces, the end of the base, or a place in a
pending edit's text; a range is valid if both ends exist and stand in order. -/
namespace Spacing

structure Draft where
  base : Text
  config : Config
  pending : Patch
deriving DecidableEq

namespace Draft

def ofBase (base : Text) (config : Config) : Draft := ⟨base, config, Patch.empty⟩

/-- What keeps a position from existing. An offset is held against the length before it is held
against the edits, and an edit must be pending before the offset in it matters. -/
def problem? (d : Draft) : Position → Option Rejection
  | .base offset =>
    if d.base.length < offset then some (.pastEnd offset d.base.length)
    else (d.pending.replacing? offset).map (.replaced offset)
  | .within e offset =>
    if !d.pending.contains e then some (.notCurrent e offset)
    else if e.text.length < offset then some (.outOfText e offset)
    else none

def HasPosition (d : Draft) (p : Position) : Prop := d.problem? p = none

instance (d : Draft) (p : Position) : Decidable (d.HasPosition p) :=
  inferInstanceAs (Decidable (d.problem? p = none))

def HasRange (d : Draft) (r : Range) : Prop :=
  d.HasPosition r.start ∧ d.HasPosition r.stop ∧ r.start.anchor ≤ r.stop.anchor

instance (d : Draft) (r : Range) : Decidable (d.HasRange r) :=
  inferInstanceAs (Decidable (_ ∧ _ ∧ _))

def locate (d : Draft) (p : Option Position) : Except Failure Position :=
  match p with
  | none => .error .missingEnd
  | some p =>
    match d.problem? p with
    | some reason => .error reason.failure
    | none => .ok p

def anchor (d : Draft) (p : Option Position) : Except Failure Anchor :=
  Position.anchor <$> d.locate p

/-- The start is checked in full before the end, and the order last. Ends that exist lie in the text,
so what is told of them can be written. -/
def resolve (d : Draft) (s : Selection) : Except Failure Range := do
  let start ← d.locate s.start
  let stop ← d.locate s.stop
  if stop.anchor < start.anchor then throw (.rejected (.reversed ⟨start, stop⟩))
  return ⟨start, stop⟩

def anchors (d : Draft) (s : Selection) : Except Failure (Anchor × Anchor) := do
  let r ← d.resolve s
  return (r.start.anchor, r.stop.anchor)

def valid? (d : Draft) (s : Selection) : Except Failure (Option Range) :=
  match d.resolve s with
  | .ok r => .ok (some r)
  | .error (.rejected _) => .ok none
  | .error failure => .error failure

def isValid (d : Draft) (s : Selection) : Except Failure Bool := Option.isSome <$> d.valid? s

def segments (d : Draft) (r : Range) : List Segment := Segment.ofRange d.base d.pending r

theorem resolve_eq_ok_iff {d : Draft} {r s : Range} :
    d.resolve r = .ok s ↔ s = r ∧ d.HasRange r := by
  unfold resolve HasRange HasPosition
  simp only [Range.toSelection, locate]
  cases first : d.problem? r.start with
  | some reason => simp [bind, Except.bind]
  | none =>
    cases second : d.problem? r.stop with
    | some reason => simp [bind, Except.bind]
    | none =>
      by_cases order : r.stop.anchor < r.start.anchor
      · simp [bind, Except.bind, order, Anchor.le_iff_not_lt, throw, throwThe,
          MonadExceptOf.throw]
      · simp [bind, Except.bind, order, Anchor.le_iff_not_lt, pure, Except.pure]
        exact eq_comm

end Draft
end Spacing
