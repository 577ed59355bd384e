import Spacing.Proofs.Effect
import Spacing.Proofs.Writing

/-! Looking up the ends of a selection. The start comes before the end and a missing end fails like one
that does not exist; why an end does not exist is told only if the integers in it can be written. -/
namespace Spacing.Draft

variable {d : Draft}

/-- Looking up the ends comes upon one that is missing. -/
def MeetsMissing (d : Draft) (s : Selection) : Prop :=
  s.start = none ∨ ∃ p, s.start = some p ∧ d.HasPosition p ∧ s.stop = none

/-- How a position does not exist, and what is told of it. -/
inductive Missed (d : Draft) : Position → Rejection → Prop
  | pastEnd {o : Nat} (beyond : d.base.length < o) : Missed d (.base o) (.pastEnd o d.base.length)
  | replaced {o : Nat} {e : Edit} (inBase : o ≤ d.base.length)
    (found : d.pending.replacing? o = some e) : Missed d (.base o) (.replaced o e)
  | notCurrent {e : Edit} (gone : e ∉ d.pending.toList) (k : Nat) :
    Missed d (.within e k) (.notCurrent e k)
  | outOfText {e : Edit} {k : Nat} (held : e ∈ d.pending.toList) (beyond : e.text.length < k) :
    Missed d (.within e k) (.outOfText e k)

/-- The position does not exist, and why cannot be written. -/
def Untold (d : Draft) (p : Position) : Prop :=
  ∃ reason, d.problem? p = some reason ∧ reason.isWritable = false

instance (d : Draft) (p : Position) : Decidable (d.Untold p) :=
  decidable_of_iff ((d.problem? p).any (fun reason => !reason.isWritable) = true) (by
    cases found : d.problem? p <;> simp [Untold, found])

theorem untold_of_problem {p : Position} {reason : Rejection} (problem : d.problem? p = some reason) :
    d.Untold p ↔ reason.isWritable = false := by
  simp [Untold, problem]

/-- Looking up the ends comes upon one that does not exist and cannot be told of. -/
def MeetsUntold (d : Draft) (s : Selection) : Prop :=
  (∃ p, s.start = some p ∧ d.Untold p) ∨
    ∃ p q, s.start = some p ∧ d.HasPosition p ∧ s.stop = some q ∧ d.Untold q

theorem meetsUntold_iff {r : Range} :
    d.MeetsUntold r ↔ d.Untold r.start ∨ d.HasPosition r.start ∧ d.Untold r.stop := by
  simp [MeetsUntold, Range.toSelection]

theorem missed_of_problem {p : Position} {reason : Rejection} (problem : d.problem? p = some reason) :
    d.Missed p reason := by
  cases p with
  | base o =>
    simp only [problem?] at problem
    split at problem
    · next beyond =>
      obtain rfl := Option.some.inj problem
      exact .pastEnd beyond
    · next inBase =>
      obtain ⟨e, found, rfl⟩ := Option.map_eq_some_iff.1 problem
      exact .replaced (Nat.le_of_not_lt inBase) found
  | within e k =>
    simp only [problem?, Bool.not_eq_true', ← Bool.not_eq_true, Patch.contains_iff] at problem
    split at problem
    · next gone =>
      obtain rfl := Option.some.inj problem
      exact .notCurrent gone k
    · next held =>
      obtain ⟨beyond, same⟩ := Option.ite_none_right_eq_some.1 problem
      obtain rfl := Option.some.inj same
      exact .outOfText (not_not.1 held) beyond

theorem isWritable_of_problem (normal : d.IsNormal)
    (short : Text.isWritable d.base.length = true) {p : Position} {reason : Rejection}
    (problem : d.problem? p = some reason) :
    reason.isWritable = p.integers.all Text.isWritable := by
  cases missed_of_problem problem with
  | pastEnd => simp [Rejection.isWritable, Rejection.integers, Position.integers, short]
  | replaced _ found =>
    obtain ⟨held, _⟩ := (Patch.replacing?_eq_some_iff normal.apart).1 found
    have stop := Text.isWritable_of_le (normal.inBase _ held) short
    have start := Text.isWritable_of_le (Edit.start_le_stop _) stop
    simp [Rejection.isWritable, Rejection.integers, Position.integers, Edit.integers, start, stop]
  | notCurrent | outOfText => rfl

/-- In a base whose own length can be written, only the integers of the position matter. -/
theorem untold_iff (normal : d.IsNormal) (short : Text.isWritable d.base.length = true)
    {p : Position} :
    d.Untold p ↔ ¬ d.HasPosition p ∧ p.integers.all Text.isWritable = false := by
  cases problem : d.problem? p with
  | none => simp [Untold, HasPosition, problem]
  | some reason =>
    have same := isWritable_of_problem normal short problem
    simp [Untold, HasPosition, problem, same]

/-- How a selection is no valid range: the first fault that is met. -/
inductive Unresolved (d : Draft) (s : Selection) : Failure → Prop
  | startMissing (absent : s.start = none) : Unresolved d s .missingEnd
  | startRefused {p : Position} {reason : Rejection} (start : s.start = some p)
    (problem : d.problem? p = some reason) : Unresolved d s reason.failure
  | stopMissing {p : Position} (start : s.start = some p) (present : d.HasPosition p)
    (absent : s.stop = none) : Unresolved d s .missingEnd
  | stopRefused {p q : Position} {reason : Rejection} (start : s.start = some p)
    (present : d.HasPosition p) (stop : s.stop = some q) (problem : d.problem? q = some reason) :
    Unresolved d s reason.failure
  | reversed {r : Range} (asked : s = r) (first : d.HasPosition r.start)
    (second : d.HasPosition r.stop) (crossed : r.stop.anchor < r.start.anchor) :
    Unresolved d s (.rejected (.reversed r))

theorem locate_none : d.locate none = .error .missingEnd := rfl

theorem locate_of_problem {p : Position} {reason : Rejection} (problem : d.problem? p = some reason) :
    d.locate (some p) = .error reason.failure := by
  simp only [locate, problem]

theorem locate_of_hasPosition {p : Position} (present : d.HasPosition p) :
    d.locate (some p) = .ok p := by
  have free : d.problem? p = none := present
  simp only [locate, free]

theorem resolve_of_unresolved {s : Selection} {failure : Failure}
    (unresolved : d.Unresolved s failure) : d.resolve s = .error failure := by
  cases unresolved with
  | startMissing absent =>
    rw [resolve, absent, locate_none]
    rfl
  | startRefused start problem =>
    rw [resolve, start, locate_of_problem problem]
    rfl
  | stopMissing start present absent =>
    rw [resolve, start, absent, locate_of_hasPosition present, locate_none]
    rfl
  | stopRefused start present stop problem =>
    rw [resolve, start, stop, locate_of_hasPosition present, locate_of_problem problem]
    rfl
  | reversed asked first second crossed =>
    rw [resolve, asked, Range.toSelection, locate_of_hasPosition first, locate_of_hasPosition second]
    simp only [bind, Except.bind, if_pos crossed]
    rfl

theorem unresolved_or_hasRange (s : Selection) :
    (∃ failure, d.Unresolved s failure) ∨ ∃ r : Range, s = r ∧ d.HasRange r := by
  obtain ⟨start, stop⟩ := s
  cases start with
  | none => exact .inl ⟨_, .startMissing rfl⟩
  | some p =>
    cases first : d.problem? p with
    | some reason => exact .inl ⟨_, .startRefused rfl first⟩
    | none =>
      cases stop with
      | none => exact .inl ⟨_, .stopMissing rfl first rfl⟩
      | some q =>
        cases second : d.problem? q with
        | some reason => exact .inl ⟨_, .stopRefused rfl first rfl second⟩
        | none =>
          by_cases crossed : q.anchor < p.anchor
          · exact .inl ⟨_, @Unresolved.reversed d _ ⟨p, q⟩ rfl first second crossed⟩
          · exact .inr ⟨⟨p, q⟩, rfl, first, second, crossed⟩

theorem resolve_eq_error_iff {s : Selection} {failure : Failure} :
    d.resolve s = .error failure ↔ d.Unresolved s failure := by
  refine ⟨fun failed => ?_, resolve_of_unresolved⟩
  rcases unresolved_or_hasRange s with ⟨other, unresolved⟩ | ⟨r, rfl, valid⟩
  · rw [resolve_of_unresolved unresolved] at failed
    rwa [← Except.error.inj failed]
  · rw [resolve_eq_ok.2 ⟨rfl, valid⟩] at failed
    cases failed

theorem unresolved_missingEnd_iff {s : Selection} : d.Unresolved s .missingEnd ↔ d.MeetsMissing s := by
  constructor
  · generalize same : Failure.missingEnd = failure
    intro unresolved
    cases unresolved with
    | startMissing absent => exact .inl absent
    | stopMissing start present absent => exact .inr ⟨_, start, present, absent⟩
    | startRefused _ _ | stopRefused _ _ _ _ =>
      rw [Rejection.failure] at same
      split at same <;> cases same
    | reversed => cases same
  · rintro (absent | ⟨p, start, present, absent⟩)
    · exact .startMissing absent
    · exact .stopMissing start present absent

theorem unresolved_unwritable_iff {s : Selection} : d.Unresolved s .unwritable ↔ d.MeetsUntold s := by
  constructor
  · generalize same : Failure.unwritable = failure
    intro unresolved
    cases unresolved with
    | startRefused start problem =>
      exact .inl ⟨_, start, _, problem, Rejection.failure_eq_unwritable.1 same.symm⟩
    | stopRefused start present stop problem =>
      exact .inr ⟨_, _, start, present, stop, _, problem, Rejection.failure_eq_unwritable.1 same.symm⟩
    | startMissing | stopMissing | reversed => cases same
  · rintro (⟨p, start, reason, problem, untold⟩ | ⟨p, q, start, present, stop, reason, problem, untold⟩)
    · rw [← Rejection.failure_eq_unwritable.2 untold]
      exact .startRefused start problem
    · rw [← Rejection.failure_eq_unwritable.2 untold]
      exact .stopRefused start present stop problem

theorem Unresolved.cases_failure {s : Selection} {failure : Failure} (unresolved : d.Unresolved s failure) :
    (∃ reason, failure = .rejected reason) ∨ failure = .missingEnd ∨ failure = .unwritable := by
  cases unresolved with
  | startMissing | stopMissing => exact .inr (.inl rfl)
  | reversed => exact .inl ⟨_, rfl⟩
  | @startRefused _ reason | @stopRefused _ _ reason =>
    unfold Rejection.failure
    split
    · exact .inl ⟨_, rfl⟩
    · exact .inr (.inr rfl)

end Spacing.Draft
