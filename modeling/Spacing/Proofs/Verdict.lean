import Spacing.Proofs.NormalForm
import Spacing.Proofs.Resolution
import Spacing.Proofs.Rendering

/-! The verdict on a submission, read off the edited text and the list of pending edits. The checks
of a submission look at one edit found by its start, leave out the edit on the right and count the
characters of segments; what they decide, and which of them decides first, is said here without
any of that, and a submission ends as the verdict says. -/
namespace Spacing

open Segment

inductive Verdict
  | refused (kind : Rejection.Kind)
  | untold
  | idle
  | taken
deriving DecidableEq

instance (es : List Edit) (offset : Nat) : Decidable (Survives es offset) :=
  inferInstanceAs (Decidable (∀ e ∈ es, ¬ (e.start ≤ offset ∧ offset < e.stop)))

def Range.StopsInside (r : Range) : Prop :=
  match r.start, r.stop with
  | .base _, .within _ k => 0 < k
  | _, _ => False

instance (r : Range) : Decidable r.StopsInside := by
  unfold Range.StopsInside
  split <;> infer_instance

namespace Draft

/-- A base offset that no pending edit replaces, or a place in the text of one. -/
def Stands (d : Draft) : Position → Prop
  | .base o => o ≤ d.base.length ∧ Survives d.pending.toList o
  | .within e k => e ∈ d.pending.toList ∧ k ≤ e.text.length

instance (d : Draft) (p : Position) : Decidable (d.Stands p) := by
  unfold Stands
  split <;> infer_instance

/-- The pending edits that lie inside a range, apart from those its ends stand in. An insertion at
a start in base text lies before it. -/
def enclosed (d : Draft) (r : Range) : List Edit :=
  match r.start, r.stop with
  | .base a, .base b => d.pending.toList.filter fun f => a < f.start ∧ f.stop ≤ b
  | .base a, .within g _ => d.pending.toList.filter fun f => a < f.start ∧ f.stop < g.start
  | .within e _, .base b => d.pending.toList.filter fun f => e.stop < f.start ∧ f.stop ≤ b
  | .within _ _, .within _ _ => []

/-- The range leads from one edit to another or out of the middle of one, or several lie inside. -/
def Cuts (d : Draft) (r : Range) : Prop :=
  match r.start, r.stop with
  | .within e _, .within g _ => e ≠ g
  | .within _ k, .base _ => 0 < k ∨ 1 < (d.enclosed r).length
  | .base _, _ => 1 < (d.enclosed r).length

instance (d : Draft) (r : Range) : Decidable (d.Cuts r) := by
  unfold Cuts
  split <;> infer_instance

def complaint (d : Draft) (p : Position) : Verdict :=
  if d.Untold p then .untold else .refused .position

/-- The first condition that holds decides: the ends come before the text, the text before the edits
around it. -/
def verdict (d : Draft) (r : Range) (text : Text) : Verdict :=
  if ¬ d.Stands r.start then d.complaint r.start
  else if ¬ d.Stands r.stop then d.complaint r.stop
  else if r.stop.anchor < r.start.anchor then .refused .range
  else if ¬ text.IsBlank then .refused .nonBlank
  else if r.start = r.stop ∧ text = [] then .idle
  else if ¬ Text.IsBlank
      (d.rendered.slice (d.offset r.start).toNat (d.offset r.stop).toNat) then .refused .nonBlank
  else if r.StopsInside then .refused .position
  else if d.Cuts r then .refused .intersection
  else .taken

def Outcome.Follows (o : Outcome) (d : Draft) (r : Range) : Verdict → Prop
  | .refused kind =>
    (∃ reason, reason.kind = kind ∧ o.result = .error (.rejected reason)) ∧ o.draft = d
  | .untold => o.result = .error .unwritable ∧ o.draft = d
  | .idle => o.result = .ok r ∧ o.draft = d
  | .taken => ∃ answer, o.result = .ok answer

variable {d : Draft}

theorem kind_of_problem {p : Position} {reason : Rejection} (problem : d.problem? p = some reason) :
    reason.kind = .position := by
  cases missed_of_problem problem with
  | _ => rfl

theorem follows_complaint {r : Range} {p : Position} {reason : Rejection}
    (problem : d.problem? p = some reason) (failed : d.Unresolved r reason.failure) (text : Text) :
    (d.submit r text).Follows d r (d.complaint p) := by
  rw [submit_of_unresolved (resolve_of_unresolved failed), complaint]
  by_cases untold : d.Untold p
  · rw [if_pos untold, Rejection.failure_eq_unwritable.2 ((untold_of_problem problem).1 untold)]
    exact ⟨rfl, rfl⟩
  · have told : reason.isWritable = true := by
      rwa [untold_of_problem problem, Bool.not_eq_false] at untold
    rw [if_neg untold, Rejection.failure_of_isWritable told]
    exact ⟨⟨reason, kind_of_problem problem, rfl⟩, rfl⟩

theorem inside_eq_filter {lo hi : Nat} {apart : Option Edit} {p : Edit → Bool}
    (same : ∀ f ∈ d.pending.toList, (lo ≤ f.start ∧ f.stop ≤ hi ∧ apart ≠ some f ∧
      (f.start = f.stop → f.start ≠ lo)) ↔ p f = true) :
    d.inside lo hi apart = d.pending.toList.filter p := by
  have sorted := d.pending.ascending
  refine eq_of_ascending ?_ (sorted.filter _) fun f => ?_
  · rw [inside, Patch.between_eq]
    exact (sorted.filter _).filter _
  · rw [mem_inside, List.mem_filter]
    exact and_congr_right fun member => same f member

variable (normal : d.IsNormal)
include normal

theorem hasPosition_iff_stands {p : Position} : d.HasPosition p ↔ d.Stands p := by
  cases p with
  | base o => exact hasPosition_base normal
  | within e k => exact hasPosition_within

theorem not_stands_of_problem {p : Position} {reason : Rejection}
    (found : d.problem? p = some reason) : ¬ d.Stands p := by
  intro stands
  have none : d.problem? p = none := (hasPosition_iff_stands normal).2 stands
  rw [none] at found
  cases found

theorem inside_base_base {a : Nat} (b : Nat) (first : d.HasPosition (.base a)) :
    d.inside a b none = d.enclosed ⟨.base a, .base b⟩ := by
  have free := ((hasPosition_base normal).1 first).2
  apply inside_eq_filter
  intro f member
  have spared := free f member
  have size := f.start_le_stop
  simp only [decide_eq_true_eq, ne_eq, reduceCtorEq, not_false_eq_true, true_and]
  omega

theorem inside_base_within {a : Nat} {g : Edit} (k : Nat) (first : d.HasPosition (.base a))
    (held : g ∈ d.pending.toList) :
    d.inside a g.start (some g) = d.enclosed ⟨.base a, .within g k⟩ := by
  have free := ((hasPosition_base normal).1 first).2
  have width := g.start_le_stop
  apply inside_eq_filter
  intro f member
  have spared := free f member
  have size := f.start_le_stop
  have other : g = f ↔ g.start = f.start := ⟨congrArg _, Patch.eq_of_start_eq held member⟩
  simp only [decide_eq_true_eq, ne_eq, Option.some.injEq, other]
  -- No edit touches `g`, so what stops at its start is `g` itself.
  rcases apart_or normal.apart held member with rfl | later | earlier
  · omega
  · omega
  · omega

theorem inside_within_base {e : Edit} (k b : Nat) (held : e ∈ d.pending.toList) :
    d.inside e.stop b (some e) = d.enclosed ⟨.within e k, .base b⟩ := by
  have width := e.start_le_stop
  apply inside_eq_filter
  intro f member
  have size := f.start_le_stop
  have other : e = f ↔ e.start = f.start := ⟨congrArg _, Patch.eq_of_start_eq held member⟩
  simp only [decide_eq_true_eq, ne_eq, Option.some.injEq, other]
  rcases apart_or normal.apart held member with rfl | later | earlier
  · omega
  · omega
  · omega

omit normal in
theorem map_kind_crowded (lo hi : Nat) (apart : Option Edit) :
    (d.crowded? lo hi apart).map Rejection.kind =
      if 1 < (d.inside lo hi apart).length then some .intersection else none := by
  unfold crowded?
  split
  · rfl
  · rfl

variable {r : Range} (valid : d.HasRange r)
include valid

theorem map_kind_objection : (d.objection? r).map Rejection.kind =
    if r.StopsInside then some .position else if d.Cuts r then some .intersection else none := by
  obtain ⟨start, stop⟩ := r
  obtain ⟨first, second, _⟩ := valid
  cases start with
  | base a =>
    cases stop with
    | base b =>
      simp only [objection?, map_kind_crowded, inside_base_base normal b first]
      by_cases several : 1 < (d.enclosed ⟨.base a, .base b⟩).length
      · simp [Range.StopsInside, Cuts, several]
      · simp [Range.StopsInside, Cuts, several]
    | within g k =>
      have held := (hasPosition_within.1 second).1
      by_cases zero : k = 0
      · simp only [objection?, if_pos zero, map_kind_crowded, inside_base_within normal k first held]
        simp [Range.StopsInside, Cuts, zero]
      · simp [objection?, zero, Range.StopsInside, Nat.pos_of_ne_zero zero, Rejection.kind]
  | within e k =>
    have held := (hasPosition_within.1 first).1
    cases stop with
    | base b =>
      by_cases zero : k = 0
      · simp only [objection?, if_pos zero, map_kind_crowded, inside_within_base normal k b held]
        simp [Range.StopsInside, Cuts, zero]
      · simp [objection?, zero, Range.StopsInside, Cuts, Nat.pos_of_ne_zero zero, Rejection.kind]
    | within f m =>
      by_cases same : e = f
      · simp [objection?, same, Range.StopsInside, Cuts]
      · simp [objection?, same, Range.StopsInside, Cuts, Rejection.kind]

theorem verdict_eq (text : Text) :
    d.verdict r text = match (d.refusal? r text).map Rejection.kind with
      | some kind => .refused kind
      | none => if r.start = r.stop ∧ text = [] then .idle else .taken := by
  have first := (hasPosition_iff_stands normal).1 valid.1
  have second := (hasPosition_iff_stands normal).1 valid.2.1
  have ordered : ¬ r.stop.anchor < r.start.anchor := valid.2.2
  have clash := map_kind_objection normal valid
  simp only [verdict, refusal?, first, second, ordered, not_true_eq_false, if_false,
    slice_rendered normal valid]
  by_cases blank : text.IsBlank
  · by_cases idle : r.start = r.stop ∧ text = []
    · simp [idle]
    · by_cases covered : Text.IsBlank (textOf (d.segments r))
      · simp only [blank, idle, covered, not_true_eq_false, if_false, clash]
        by_cases inner : r.StopsInside
        · simp only [inner, if_true]
        · by_cases cuts : d.Cuts r
          · simp only [inner, cuts, if_true, if_false]
          · simp only [inner, cuts, if_false]
      · simp only [blank, idle, covered, not_true_eq_false, not_false_eq_true, if_false, if_true,
          Option.map_some, Rejection.kind]
  · simp only [blank, not_false_eq_true, if_true, Option.map_some, Rejection.kind]

theorem follows_verdict (text : Text) :
    (d.submit r text).Follows d r (d.verdict r text) := by
  rw [verdict_eq normal valid]
  cases refusal : d.refusal? r text with
  | some reason =>
    rw [submit_of_refusal valid refusal]
    exact ⟨⟨reason, rfl, rfl⟩, rfl⟩
  | none =>
    simp only [Option.map_none]
    split
    · next idle =>
      rw [idle.2, submit_of_idle valid idle.1]
      exact ⟨rfl, rfl⟩
    · next busy =>
      obtain ⟨c, _, result, _⟩ := submit_of_clear valid normal refusal busy
      exact ⟨_, result⟩

end Draft
end Spacing
