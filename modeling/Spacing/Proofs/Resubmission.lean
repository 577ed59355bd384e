import Spacing.Proofs.Acceptance

/-! Submitting over an answer. The answer to a submission has the margins of the range that was
asked for, so a second text submitted over it is stored in the edit it would be stored in if it had
been the first: the last text wins. The one answer that cannot be submitted over begins in the new
edit, behind text that was joined on the left, and ends in base text. -/
namespace Spacing

open Segment

def Range.StartsInside (r : Range) : Prop :=
  match r.start, r.stop with
  | .within _ k, .base _ => 0 < k
  | _, _ => False

theorem Range.not_startsInside_self (p : Position) : ¬ Range.StartsInside ⟨p, p⟩ := by
  cases p with
  | base o => exact not_false
  | within e k => exact not_false

theorem Change.landing_cases (c : Change) (length : Nat) :
    c.landing length = ⟨.within c.edit c.shift, .within c.edit (c.shift + length)⟩ ∨
      c.landing length = ⟨.within c.edit c.shift, .base c.edit.stop⟩ ∨
      c.landing length = ⟨.base c.edit.stop, .base c.edit.stop⟩ := by
  by_cases short : c.shift + length < c.edit.text.length
  · have filled : c.edit.text.isEmpty = false := by
      rw [List.isEmpty_eq_false_iff]
      intro empty
      simp [empty] at short
    simp [landing, short, filled]
  · cases empty : c.edit.text.isEmpty with
    | false => simp [landing, short, empty]
    | true => simp [landing, short, empty]

namespace Draft

variable {d : Draft}

theorem Suits.lead_eq {r : Range} {text : Text} {c : Change} (suits : d.Suits r text c) :
    d.lead r.start = ⟨c.edit.start, c.edit.text.take c.shift⟩ := by
  rw [suits.start_eq, suits.text_eq, suits.shift_eq, List.append_assoc, List.take_left]

theorem Suits.trail_eq {r : Range} {text : Text} {c : Change} (suits : d.Suits r text c) :
    r.stop.trail = ⟨c.edit.stop, c.edit.text.drop (c.shift + text.length)⟩ := by
  rw [suits.stop_eq, suits.text_eq, suits.shift_eq, ← List.length_append, List.drop_left]

theorem inside_self (o : Nat) (apart : Option Edit) : d.inside o o apart = [] := by
  apply List.eq_nil_iff_forall_not_mem.2
  intro f member
  obtain ⟨_, low, high, _, insertion⟩ := mem_inside.1 member
  have size := f.start_le_stop
  exact insertion (by omega) (by omega)

theorem crowded_self (o : Nat) (apart : Option Edit) : d.crowded? o o apart = none := by
  simp [crowded?, inside_self]

theorem objection_self (p : Position) : d.objection? ⟨p, p⟩ = none := by
  cases p with
  | base o => exact crowded_self o none
  | within e k => simp [objection?]

theorem objection_landing {c : Change} {length : Nat}
    (outside : ¬ (c.landing length).StartsInside) : d.objection? (c.landing length) = none := by
  rcases c.landing_cases length with both | one | neither
  · simp [both, objection?]
  · rw [one] at outside ⊢
    have first : c.shift = 0 := Nat.eq_zero_of_not_pos outside
    simp only [objection?, first, if_true]
    exact crowded_self _ _
  · rw [neither]
    exact objection_self _

theorem objection_of_startsInside {r : Range} (inside : r.StartsInside) :
    ∃ reason, d.objection? r = some reason ∧ reason.kind = .intersection := by
  obtain ⟨start, stop⟩ := r
  cases start with
  | base a => exact inside.elim
  | within e k =>
    cases stop with
    | base b =>
      have later : k ≠ 0 := Nat.ne_of_gt inside
      exact ⟨.startsInsideEdit e k, by simp [objection?, later], rfl⟩
    | within f m => exact inside.elim

section Normal

variable (normal : d.IsNormal)
include normal

theorem textOf_segments_self {p : Position} (valid : d.HasRange ⟨p, p⟩) :
    textOf (d.segments ⟨p, p⟩) = [] := by
  rw [← slice_rendered normal valid, Text.slice_of_le _ (Nat.le_refl _)]

theorem accepted_of_isBlank {r : Range} (valid : d.HasRange r) {first second : Text}
    (clear : d.refusal? r first = none) (blank : second.IsBlank) :
    d.refusal? r second = none := by
  by_cases idle : r.start = r.stop ∧ second = []
  · simp [refusal?, idle]
  · rw [refusal?_eq_none_iff idle, and_iff_right blank]
    by_cases empty : r.start = r.stop
    · obtain ⟨start, stop⟩ := r
      obtain rfl : start = stop := empty
      rw [textOf_segments_self normal valid]
      exact ⟨Text.isBlank_nil, objection_self start⟩
    · exact ((refusal?_eq_none_iff fun both => empty both.1).1 clear).2

theorem textOf_answer {s : Selection} {text : Text} {answer : Range}
    (taken : (d.submit s text).result = .ok answer) :
    textOf ((d.submit s text).draft.segments answer) = text := by
  obtain ⟨r, asked, valid, spans, start, stop⟩ := answer_at_submitted normal taken
  obtain ⟨q, named, _, spliced⟩ := submit_eq_splice normal taken
  obtain rfl : r = q := Range.toSelection_inj.1 (asked.symm.trans named)
  rw [← slice_rendered (normal_submit normal s text) spans, start, stop, spliced]
  exact Text.slice_splice _ _ _ (offset_nonneg normal valid.1) (offset_le_length normal valid.1)

section Stored

variable {r : Range} {text : Text} {c : Change} (suits : d.Suits r text c) {o : Draft}
include suits

omit normal in
theorem trail_landing : (c.landing text.length).stop.trail = r.stop.trail := by
  rw [Change.landing_stop, suits.trail_eq]
  split
  · rfl
  · next long =>
    rw [List.drop_of_length_le (Nat.le_of_not_lt long)]
    rfl

omit normal in
theorem lead_landing (pending : o.pending.toList = d.changed c.edit) (after : o.IsNormal) :
    o.lead (c.landing text.length).start = d.lead r.start := by
  rw [suits.lead_eq, Change.landing_start]
  split
  · next empty =>
    have short : ¬ c.shift + text.length < c.edit.text.length := by simp [empty]
    rw [Change.landing_stop, if_neg short, lead, empty, List.take_nil]
    cases left : o.pending.stoppingAt? c.edit.stop with
    | none =>
      have void : c.edit.isVoid = true := by
        by_contra solid
        have loose := (Patch.stoppingAt?_eq_none_iff after.apart).1 left c.edit
        rw [pending, mem_changed] at loose
        exact loose (Or.inr ⟨rfl, by simpa using solid⟩) rfl
      simp only [Edit.isVoid, Edit.isInsertion, Bool.and_eq_true, beq_iff_eq] at void
      rw [Option.elim_none, void.1]
    | some f =>
      obtain ⟨held, touching⟩ := (Patch.stoppingAt?_eq_some_iff after.apart).1 left
      have size := f.start_le_stop
      have order := c.edit.start_le_stop
      rw [pending, mem_changed] at held
      rcases held with ⟨_, apart⟩ | ⟨rfl, _⟩
      · omega
      · rw [Option.elim_some, empty]
  · rfl

end Stored

section Taken

variable {r : Range} {text : Text} {answer : Range}
  (taken : (d.submit r text).result = .ok answer)
include taken

theorem objection_answer (outside : ¬ answer.StartsInside) :
    (d.submit r text).draft.objection? answer = none := by
  cases submit_effect normal r text with
  | refused failure result same => simp [result] at taken
  | idle q asked valid empty nothing result same =>
    obtain rfl := Except.ok.inj (result.symm.trans taken)
    obtain ⟨start, stop⟩ := q
    obtain rfl : start = stop := empty
    exact objection_self start
  | stored q c asked valid covered suits result pending =>
    obtain rfl := Except.ok.inj (result.symm.trans taken)
    exact objection_landing outside

theorem isBlank_textOf_answer :
    Text.IsBlank (textOf ((d.submit r text).draft.segments answer)) := by
  obtain ⟨q, _, _, clear⟩ := accepted_of_taken taken
  rw [textOf_answer normal taken]
  exact isBlank_of_accepted clear

variable {second : Text} (blank : second.IsBlank)
include blank

theorem refused_over_answer (inside : answer.StartsInside) :
    ∃ reason, reason.kind = .intersection ∧
      (d.submit r text).draft.refusal? answer second = some reason := by
  have covered := isBlank_textOf_answer normal taken
  obtain ⟨reason, found, kind⟩ := objection_of_startsInside (d := (d.submit r text).draft) inside
  have apart : answer.start ≠ answer.stop := by
    intro same
    obtain ⟨start, stop⟩ := answer
    obtain rfl : start = stop := same
    exact Range.not_startsInside_self start inside
  exact ⟨reason, kind, by simp [refusal?, blank, apart, covered, found]⟩

theorem accepted_over_answer (outside : ¬ answer.StartsInside) :
    (d.submit r text).draft.refusal? answer second = none := by
  by_cases idle : answer.start = answer.stop ∧ second = []
  · simp [refusal?, idle]
  · rw [refusal?_eq_none_iff idle]
    exact ⟨blank, isBlank_textOf_answer normal taken, objection_answer normal taken outside⟩

end Taken

section Accepted

variable {r : Range} {text : Text} {answer : Range} (valid : d.HasRange r)
  (clear : d.refusal? r text = none) (taken : (d.submit r text).result = .ok answer)
include valid clear taken

/-- An answer has the margins of the range that was asked for. -/
theorem margins_answer : (d.submit r text).draft.lead answer.start = d.lead r.start ∧
    answer.stop.trail = r.stop.trail := by
  by_cases idle : r.start = r.stop ∧ text = []
  · obtain ⟨empty, rfl⟩ := idle
    rw [submit_of_idle valid empty] at taken ⊢
    obtain rfl := Except.ok.inj taken
    exact ⟨rfl, rfl⟩
  · obtain ⟨c, suits, result, pending, _⟩ := submit_of_clear valid normal clear idle
    obtain rfl := Except.ok.inj (result.symm.trans taken)
    exact ⟨lead_landing suits pending (normal_submit normal r text), trail_landing suits⟩

variable {second : Text} (blank : second.IsBlank)
  (spans : (d.submit r text).draft.HasRange answer) (outside : ¬ answer.StartsInside)
include blank spans outside

theorem submit_over_answer :
    ((d.submit r text).draft.submit answer second).draft = (d.submit r second).draft := by
  obtain ⟨e, fills, pending⟩ := submit_of_accepted normal valid clear
  obtain ⟨f, once, direct⟩ :=
    submit_of_accepted normal valid (accepted_of_isBlank normal valid clear blank)
  obtain ⟨g, again, replayed⟩ := submit_of_accepted (normal_submit normal r text) spans
    (accepted_over_answer normal taken blank outside)
  obtain ⟨lead, trail⟩ := margins_answer normal valid clear taken
  obtain rfl : g = f := once.unique again lead trail
  apply eq_of_pending
  · simp only [submit_base]
  · simp only [submit_config]
  · rw [replayed, direct]
    exact changed_of_covered normal pending
      (Nat.le_of_eq (once.start_eq.trans fills.start_eq.symm))
      (Nat.le_of_eq (fills.stop_eq.trans once.stop_eq.symm))

theorem result_over_answer (busy : ¬ (r.start = r.stop ∧ second = [])) :
    ((d.submit r text).draft.submit answer second).result = (d.submit r second).result := by
  by_cases idle : answer.start = answer.stop ∧ second = []
  · -- The answer is empty, so the first text was empty as well and both submissions are one.
    obtain ⟨empty, rfl⟩ := idle
    obtain ⟨q, _, _, _, start, stop⟩ := answer_at_submitted normal taken
    rw [empty, stop] at start
    obtain rfl : text = [] := List.eq_nil_of_length_eq_zero (by omega)
    rw [submit_of_idle spans empty, taken]
  · obtain ⟨c, first, direct, _⟩ :=
      submit_of_clear valid normal (accepted_of_isBlank normal valid clear blank) busy
    obtain ⟨b, again, replayed, _⟩ := submit_of_clear spans (normal_submit normal r text)
      (accepted_over_answer normal taken blank outside) idle
    obtain ⟨lead, trail⟩ := margins_answer normal valid clear taken
    rw [replayed, direct, first.landing_eq again lead trail]

end Accepted

end Normal

/-- Over its answer a submission can be made again, and then only the last text counts, unless the
answer begins inside an edit and ends in base text. -/
theorem resubmission_overwrites {base : Text} {config : Config} (reached : Reachable base config d)
    {s : Selection} {text : Text} {answer : Range}
    (taken : (d.submit s text).result = .ok answer) {second : Text} (blank : second.IsBlank) :
    (answer.StartsInside →
      (∃ reason, reason.kind = .intersection ∧
        ((d.submit s text).draft.submit answer second).result = .error (.rejected reason)) ∧
      ((d.submit s text).draft.submit answer second).draft = (d.submit s text).draft) ∧
    (¬ answer.StartsInside →
      (∃ last, ((d.submit s text).draft.submit answer second).result = .ok last) ∧
      ((d.submit s text).draft.submit answer second).draft = (d.submit s second).draft ∧
      (¬ (s.start = s.stop ∧ second = []) →
        ((d.submit s text).draft.submit answer second).result = (d.submit s second).result)) := by
  have normal := reached.normal
  obtain ⟨r, rfl, valid, clear⟩ := accepted_of_taken taken
  obtain ⟨_, _, _, spans, _⟩ := answer_at_submitted normal taken
  constructor
  · intro inside
    obtain ⟨reason, kind, refused⟩ := refused_over_answer normal taken blank inside
    rw [submit_of_refusal spans refused]
    exact ⟨⟨reason, kind, rfl⟩, rfl⟩
  · intro outside
    refine ⟨?_, submit_over_answer normal valid clear taken blank spans outside, fun busy => ?_⟩
    · exact exists_ok_of_accepted (normal_submit normal r text) spans
        (accepted_over_answer normal taken blank outside)
    · apply result_over_answer normal valid clear taken blank spans outside
      simpa [Range.toSelection] using busy

theorem resubmission_overwrites_joined :
    let e : Edit := ⟨1, 2, ['\n', '\t'], by decide, by decide⟩
    let f : Edit := ⟨2, 4, ['\t'], by decide, by decide⟩
    let d := (ofBase ['a', ' ', ' ', ' ', 'b'] .standard).after
      [⟨⟨some (.base 1), some (.base 1)⟩, ['\n']⟩, ⟨⟨some (.base 3), some (.base 3)⟩, ['\n']⟩]
    let first := d.submit ⟨some (.base 1), some (.base 2)⟩ ['\t']
    let second := d.submit ⟨some (.base 2), some (.base 4)⟩ ['\t']
    first.result = .ok ⟨.within e 1, .base 2⟩ ∧
      (first.draft.submit (Range.toSelection ⟨.within e 1, .base 2⟩) ['\n']).draft = first.draft ∧
      second.result = .ok ⟨.within f 0, .base 4⟩ ∧
      (second.draft.submit (Range.toSelection ⟨.within f 0, .base 4⟩) ['\n']).draft =
        (d.submit ⟨some (.base 2), some (.base 4)⟩ ['\n']).draft := by
  intro e f d first second
  have reached : Reachable ['a', ' ', ' ', ' ', 'b'] .standard d := Reachable.start.after _
  have joined : first.result = .ok ⟨.within e 1, .base 2⟩ :=
    Submission.eq_ok_of_toOption (by decide +kernel)
  have swallowed : second.result = .ok ⟨.within f 0, .base 4⟩ :=
    Submission.eq_ok_of_toOption (by decide +kernel)
  have blank : Text.IsBlank ['\n'] := by decide
  exact ⟨joined, ((resubmission_overwrites reached joined blank).1 Nat.zero_lt_one).2, swallowed,
    ((resubmission_overwrites reached swallowed blank).2 (Nat.lt_irrefl 0)).2.1⟩

end Draft
end Spacing
