import Spacing.Proofs.Addressing
import Spacing.Proofs.Splicing

namespace Spacing

open Segment

theorem Edit.shrinkage_of_isVoid {e : Edit} (void : e.isVoid = true) : e.shrinkage = 0 := by
  simp only [isVoid, isInsertion, Bool.and_eq_true, beq_iff_eq, List.isEmpty_iff] at void
  obtain ⟨here, empty⟩ := void
  simp only [shrinkage, here, empty, List.length_nil]
  omega

theorem Text.slice_splice (text inserted : Text) {start : Int} (stop : Int) (low : 0 ≤ start)
    (high : start ≤ text.length) :
    (text.splice start stop inserted).slice start.toNat (start + inserted.length).toNat =
      inserted := by
  have size : (text.take start.toNat).length = start.toNat := by
    rw [List.length_take]
    omega
  have limit : (start + inserted.length).toNat - start.toNat = inserted.length := by omega
  rw [slice, splice, limit, List.append_assoc, List.drop_left' size, List.take_left]

theorem Change.landing_stop (c : Change) (length : Nat) : (c.landing length).stop =
    if c.shift + length < c.edit.text.length then .within c.edit (c.shift + length)
    else .base c.edit.stop := by
  cases empty : c.edit.text.isEmpty <;> simp [landing, empty]

theorem Change.landing_start (c : Change) (length : Nat) : (c.landing length).start =
    if c.edit.text = [] then (c.landing length).stop else .within c.edit c.shift := by
  unfold landing
  simp only [List.isEmpty_iff]
  split
  · rfl
  · rfl

namespace Draft

variable {d : Draft}

theorem filter_changed {p : Edit → Bool} {e : Edit}
    (behind : ∀ f : Edit, f.stop < e.start → p f = true)
    (ahead : ∀ f : Edit, e.stop < f.start → p f = false) :
    (d.changed e).filter p = (d.pending.toList.filter fun f => f.stop < e.start) ++
      (if e.isVoid then [] else [e]).filter p := by
  have first : ((d.pending.toList.filter fun f => f.stop < e.start).filter p) =
      d.pending.toList.filter fun f => f.stop < e.start :=
    List.filter_eq_self.2 fun f member => behind f (by simpa using (List.mem_filter.1 member).2)
  have last : ((d.pending.toList.filter fun f => e.stop < f.start).filter p) = [] := by
    rw [List.filter_eq_nil_iff]
    intro f member
    simp [ahead f (by simpa using (List.mem_filter.1 member).2)]
  rw [changed, List.filter_append, List.filter_append, first, last, List.append_nil]

theorem filter_start_changed (e : Edit) :
    ((d.changed e).filter fun f => f.start < e.start) =
      d.pending.toList.filter fun f => f.stop < e.start := by
  have size := e.start_le_stop
  rw [filter_changed]
  · cases e.isVoid <;> simp
  · intro f low
    have order := f.start_le_stop
    simp only [decide_eq_true_eq]
    omega
  · intro f high
    simp only [decide_eq_false_iff_not]
    omega

theorem filter_stop_changed (e : Edit) :
    ((d.changed e).filter fun f => f.stop ≤ e.stop) =
      (d.pending.toList.filter fun f => f.stop < e.start) ++ if e.isVoid then [] else [e] := by
  have size := e.start_le_stop
  rw [filter_changed]
  · cases e.isVoid <;> simp
  · intro f low
    simp only [decide_eq_true_eq]
    omega
  · intro f high
    have order := f.start_le_stop
    simp only [decide_eq_false_iff_not]
    omega

variable (normal : d.IsNormal)
include normal

theorem lead_le {p : Position} (valid : d.HasPosition p) :
    (d.lead p).offset ≤ d.base.length := by
  cases p with
  | base a =>
    have low := lead_base_le normal a
    have bound := ((hasPosition_base normal).1 valid).1
    omega
  | within e k =>
    have inside := normal.inBase e (hasPosition_within.1 valid).1
    have size := e.start_le_stop
    simp only [lead]
    omega

theorem offset_eq_lead {p : Position} (valid : d.HasPosition p) :
    d.offset p = (d.lead p).offset -
      shrunkBy (d.pending.toList.filter fun e => e.stop < (d.lead p).offset) +
        (d.lead p).text.length := by
  have parts := congrArg List.length (map_char_front normal valid)
  rw [List.length_map, List.length_append, List.length_map] at parts
  have behind : ((stretch d.base 0 (d.lead p).offset _).length : Int) = _ :=
    length_stretch (placed_below normal) (lead_le normal valid)
  rw [← length_front normal valid]
  omega

section Stored

variable {r : Range} {text : Text} {c : Change} (valid : d.HasRange r) (suits : d.Suits r text c)
  {o : Draft} (pending : o.pending.toList = d.changed c.edit)
include valid suits pending

theorem offset_within_changed (k : Nat) :
    o.offset (.within c.edit k) = d.offset r.start - c.shift + k := by
  rw [offset_eq_lead normal valid.1, offset, pending, filter_start_changed, suits.start_eq,
    suits.shift_eq]
  omega

theorem offset_base_changed :
    o.offset (.base c.edit.stop) = d.offset r.start - c.shift + c.edit.text.length := by
  have new : shrunkBy (if c.edit.isVoid then [] else [c.edit]) = c.edit.shrinkage := by
    by_cases void : c.edit.isVoid = true
    · rw [if_pos void, Edit.shrinkage_of_isVoid void]
      rfl
    · rw [if_neg void]
      exact Int.add_zero _
  rw [offset_eq_lead normal valid.1, offset, pending, filter_stop_changed, shrunkBy_append, new,
    ← suits.start_eq, suits.shift_eq, Edit.shrinkage]
  omega

theorem offset_landing :
    o.offset (c.landing text.length).start = d.offset r.start ∧
      o.offset (c.landing text.length).stop = d.offset r.start + text.length := by
  have inner := offset_within_changed normal valid suits pending
  have outer := offset_base_changed normal valid suits pending
  have size : c.edit.text.length = c.shift + text.length + r.stop.trail.text.length := by
    rw [suits.text_eq, suits.shift_eq, List.length_append, List.length_append]
  have last : o.offset (c.landing text.length).stop = d.offset r.start + text.length := by
    rw [Change.landing_stop]
    split
    · rw [inner]
      omega
    · rw [outer]
      omega
  refine ⟨?_, last⟩
  rw [Change.landing_start]
  split
  · next empty =>
    rw [empty, List.length_nil] at size
    omega
  · rw [inner]
    omega

theorem hasRange_landing (origin : o.base = d.base) (after : o.IsNormal) :
    o.HasRange (c.landing text.length) := by
  have order := c.edit.start_le_stop
  have size : c.shift + text.length ≤ c.edit.text.length := by
    rw [suits.text_eq, suits.shift_eq, List.length_append, List.length_append]
    omega
  have behind : o.HasPosition (.base c.edit.stop) := by
    refine (hasPosition_base after).2 ⟨?_, ?_⟩
    · rw [origin, suits.stop_eq]
      exact trail_le normal valid.2.1
    · intro f member covered
      rw [pending] at member
      rcases mem_changed.1 member with ⟨_, apart⟩ | ⟨rfl, _⟩
      · omega
      · omega
  have inside : ∀ k, k ≤ c.edit.text.length → c.edit.text ≠ [] →
      o.HasPosition (.within c.edit k) := by
    intro k bound filled
    have solid : c.edit.isVoid = false := by simp [Edit.isVoid, filled]
    refine hasPosition_within.2 ⟨?_, bound⟩
    rw [pending]
    exact mem_changed.2 (Or.inr ⟨rfl, solid⟩)
  rw [HasRange, Change.landing_start, Change.landing_stop]
  by_cases empty : c.edit.text = []
  · have short : ¬ c.shift + text.length < c.edit.text.length := by simp [empty]
    rw [if_pos empty, if_neg short]
    exact ⟨behind, behind, Anchor.lt_irrefl _⟩
  · rw [if_neg empty]
    refine ⟨inside _ (by omega) empty, ?_⟩
    split
    · refine ⟨inside _ size empty, ?_⟩
      rw [Anchor.le_iff_not_lt, Position.anchor_within_lt_within]
      omega
    · refine ⟨behind, ?_⟩
      rw [Anchor.le_iff_not_lt, Position.anchor_base_lt_within]
      omega

end Stored

theorem answer_at_submitted {s : Selection} {text : Text} {answer : Range}
    (taken : (d.submit s text).result = .ok answer) :
    ∃ r : Range, s = r.toSelection ∧ d.HasRange r ∧ (d.submit s text).draft.HasRange answer ∧
      (d.submit s text).draft.offset answer.start = d.offset r.start ∧
      (d.submit s text).draft.offset answer.stop = d.offset r.start + text.length := by
  cases submit_effect normal s text with
  | refused failure result same => simp [result] at taken
  | idle r asked valid empty nothing result same =>
    obtain rfl : r = answer := Except.ok.inj (result.symm.trans taken)
    rw [same, ← empty, nothing]
    exact ⟨r, asked, valid, valid, rfl, (Int.add_zero _).symm⟩
  | stored r c asked valid covered suits result pending =>
    obtain rfl : c.landing text.length = answer := Except.ok.inj (result.symm.trans taken)
    exact ⟨r, asked, valid,
      hasRange_landing normal valid suits pending (submit_base d s text)
        (normal_submit normal s text),
      offset_landing normal valid suits pending⟩

omit normal in
/-- A submission that is taken answers with a valid range over exactly the text submitted. -/
theorem answer_spans_submitted {base : Text} {config : Config} (reached : Reachable base config d)
    {s : Selection} {text : Text} {answer : Range}
    (taken : (d.submit s text).result = .ok answer) :
    ∃ r : Range, s = r.toSelection ∧ (d.submit s text).draft.HasRange answer ∧
      (d.submit s text).draft.offset answer.start = d.offset r.start ∧
      (d.submit s text).draft.offset answer.stop = d.offset r.start + text.length ∧
      textOf ((d.submit s text).draft.segments answer) = text := by
  have normal := reached.normal
  obtain ⟨r, asked, valid, spans, start, stop⟩ := answer_at_submitted normal taken
  obtain ⟨same, asked_same, _, spliced⟩ := submit_eq_splice normal taken
  obtain rfl : r = same := Range.toSelection_inj.1 (asked.symm.trans asked_same)
  refine ⟨r, asked, spans, start, stop, ?_⟩
  rw [← slice_rendered (normal_submit normal s text) spans, start, stop, spliced]
  exact Text.slice_splice _ _ _ (offset_nonneg normal valid.1) (offset_le_length normal valid.1)

omit normal in
theorem answer_spans_submitted_joined :
    let e : Edit := ⟨1, 2, ['\n', '\t'], by decide, by decide⟩
    let d := (ofBase ['a', ' ', 'b'] .standard).after
      [⟨⟨some (.base 1), some (.base 1)⟩, ['\n']⟩]
    let o := d.submit ⟨some (.base 1), some (.base 2)⟩ ['\t']
    o.result = .ok ⟨.within e 1, .base 2⟩ ∧ o.draft.HasRange ⟨.within e 1, .base 2⟩ ∧
      textOf (o.draft.segments ⟨.within e 1, .base 2⟩) = ['\t'] := by
  intro e d o
  have taken : o.result = .ok ⟨.within e 1, .base 2⟩ :=
    Submission.eq_ok_of_toOption (by decide +kernel)
  obtain ⟨r, _, spans, _, _, read⟩ := answer_spans_submitted (Reachable.start.after
    [⟨⟨some (.base 1), some (.base 1)⟩, ['\n']⟩] : Reachable ['a', ' ', 'b'] .standard d) taken
  exact ⟨taken, spans, read⟩

end Draft
end Spacing
