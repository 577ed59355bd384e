import Spacing.Proofs.Frame
import Spacing.Proofs.Reading

namespace Spacing.Draft

open Segment

variable {d : Draft}

theorem mem_of_hasPosition {p : Position} (present : d.HasPosition p) :
    ∀ e k, p = .within e k → e ∈ d.pending.toList := by
  rintro e k rfl
  exact (hasPosition_within.1 present).1

section Elsewhere

variable (normal : d.IsNormal) {r : Range} {text : Text} (valid : d.HasRange r)
  (clear : d.refusal? r text = none) {q : Range} (here : d.HasRange q)
  (there : (d.submit r text).draft.HasRange q)
include normal valid clear here there

theorem cellsOf_submit_of_before (before : q.stop.anchor < r.start.anchor) :
    cellsOf ((d.submit r text).draft.segments q) = cellsOf (d.segments q) := by
  have earlier := Anchor.lt_of_le_of_lt here.2.2 before
  have start := front_submit normal valid clear here.1 (mem_of_hasPosition there.1) earlier
  have stop := front_submit normal valid clear here.2.1 (mem_of_hasPosition there.2.1) before
  have whole := front_stop_eq (normal_submit normal r text) there
  rw [start, stop, front_stop_eq normal here] at whole
  exact (List.append_cancel_left whole).symm

theorem cellsOf_submit_of_after (after : r.stop.anchor ≤ q.start.anchor) :
    cellsOf ((d.submit r text).draft.segments q) = cellsOf (d.segments q) := by
  have later : r.stop.anchor ≤ q.stop.anchor := fun less =>
    here.2.2 (Anchor.lt_of_lt_of_le less after)
  have start := back_submit normal valid clear here.1 (mem_of_hasPosition there.1) after
  have stop := back_submit normal valid clear here.2.1 (mem_of_hasPosition there.2.1) later
  have whole := back_start_eq (normal_submit normal r text) there
  rw [start, stop, back_start_eq normal here] at whole
  exact (List.append_cancel_right whole).symm

end Elsewhere

/-- What is asked of a range apart from the submitted one is answered before and after alike. -/
theorem queries_elsewhere_unchanged {base : Text} {config : Config}
    (reached : Reachable base config d) {r : Range} {text : Text} {answer : Range}
    (taken : (d.submit r text).result = .ok answer) {q : Range} (here : d.HasRange q)
    (there : (d.submit r text).draft.HasRange q)
    (apart : q.stop.anchor < r.start.anchor ∨ r.stop.anchor ≤ q.start.anchor) :
    (∀ target direction, ∃ found, d.search q target direction = .ok found ∧
      (d.submit r text).draft.search q target direction = .ok found) ∧
      (∃ count, d.lineBreaks q = .ok count ∧
        (d.submit r text).draft.lineBreaks q = .ok count) ∧
      ∀ tabWidth : Option Int, (∀ w ∈ tabWidth, 1 ≤ w) →
        ∃ columns, d.blankColumns q tabWidth = .ok columns ∧
          (d.submit r text).draft.blankColumns q tabWidth = .ok columns := by
  have normal := reached.normal
  obtain ⟨valid, clear⟩ := accepted_of_range taken
  have same : cellsOf ((d.submit r text).draft.segments q) = cellsOf (d.segments q) := by
    rcases apart with before | after
    · exact cellsOf_submit_of_before normal valid clear here there before
    · exact cellsOf_submit_of_after normal valid clear here there after
  refine ⟨fun target direction => ?_, ?_, fun asked positive => ?_⟩
  · refine ⟨_, search_of_hasRange normal here target direction, ?_⟩
    rw [search_of_hasRange (normal_submit normal r text) there, same]
  · refine ⟨_, lineBreaks_of_hasRange here, ?_⟩
    rw [lineBreaks_of_hasRange there, same]
  · obtain ⟨width, chosen⟩ := exists_tabWidth (d := d) positive
    refine ⟨_, blankColumns_of_hasRange here chosen, ?_⟩
    -- The settings of a draft are never changed, so the same width is taken.
    have still : (d.submit r text).draft.tabWidth asked = .ok width := chosen
    rw [blankColumns_of_hasRange there still, same]

theorem queries_elsewhere_unchanged_joined :
    let d := (ofBase ['a', ' ', ' ', '\t', 'b'] .standard).after
      [⟨⟨some (.base 1), some (.base 2)⟩, ['\n']⟩]
    let r : Range := ⟨.base 2, .base 2⟩
    let q : Range := ⟨.base 2, .base 5⟩
    let o := (d.submit r ['\t']).draft
    d.rendered = ['a', '\n', ' ', '\t', 'b'] ∧ o.rendered = ['a', '\n', '\t', ' ', '\t', 'b'] ∧
      d.HasRange q ∧ o.HasRange q ∧ r.stop.anchor ≤ q.start.anchor ∧
      ∃ hit, d.search q .nonBlank .forward = .ok hit ∧ o.search q .nonBlank .forward = .ok hit ∧
        hit = some ⟨.base 4, .nonBlank⟩ := by
  intro d r q o
  obtain ⟨answer, taken⟩ : ∃ answer, (d.submit r ['\t']).result = .ok answer :=
    Submission.exists_ok_of_isOk (by decide +kernel)
  have here : d.HasRange q := by decide +kernel
  have there : o.HasRange q := by decide +kernel
  have apart : r.stop.anchor ≤ q.start.anchor := by decide
  obtain ⟨hit, before, after⟩ := (queries_elsewhere_unchanged (Reachable.start.after _ :
    Reachable ['a', ' ', ' ', '\t', 'b'] .standard d) taken here there (Or.inr apart)).1
      .nonBlank .forward
  have found : (d.search q .nonBlank .forward).toOption = some (some ⟨.base 4, .nonBlank⟩) := by
    decide +kernel
  rw [before] at found
  exact ⟨by decide +kernel, by decide +kernel, here, there, apart, hit, before, after,
    Option.some.inj found⟩

end Spacing.Draft
