import Spacing.Proofs.Journal
import Spacing.Proofs.Locality
import Spacing.Proofs.Verdict

/-! Submissions over stretches of base text that touch. From left to right the second one finds the
edit of the first on its left; from right to left the second range stops at the edit of the first
and has it on its right. Each range meets the same edits and the same text in either order, and what
is stored last reaches from the margin of the left start to the right end. -/
namespace Spacing

open Segment

theorem Edit.isVoid_eq_false {e : Edit} (solid : e.start < e.stop ∨ e.text ≠ []) :
    e.isVoid = false := by
  rw [isVoid, Bool.and_eq_false_iff]
  rcases solid with wide | filled
  · left
    simpa [isInsertion] using Nat.ne_of_lt wide
  · right
    simpa using filled

namespace Draft

def Outcome.Accepted (o : Outcome) : Prop := ∃ answer, o.result = .ok answer

/-- An accepted submission that is not idle, with the one edit it leaves in its place. -/
structure Leaves (d : Draft) (r : Range) (text : Text) (e : Edit) : Prop where
  clear : d.refusal? r text = none
  fills : d.Fills r text e
  pending : (d.submit r text).draft.pending.toList = d.changed e
  stored : e.isVoid = false → ∀ f, .stored f ∈ (d.submit r text).journal ↔ f = e

variable {d : Draft}

theorem hasRange_base {a b : Nat} (first : d.HasPosition (.base a)) (second : d.HasPosition (.base b))
    (ordered : a ≤ b) : d.HasRange ⟨.base a, .base b⟩ :=
  ⟨first, second, by simpa [Anchor.le_iff_not_lt] using ordered⟩

theorem le_of_hasRange_base {a b : Nat} (valid : d.HasRange ⟨.base a, .base b⟩) : a ≤ b := by
  simpa [Anchor.le_iff_not_lt] using valid.2.2

theorem textOf_of_cellsOf {first second : List Segment} (same : cellsOf first = cellsOf second) :
    textOf first = textOf second := by
  rw [← map_char_cellsOf, same, map_char_cellsOf]

theorem stored_not_mem_encounters {r : Range} {f : Edit} : .stored f ∉ d.encounters r := by
  unfold encounters
  split <;> simp

theorem not_idle_of_busy {b c : Nat} {t : Text} (busy : b < c ∨ t ≠ []) :
    ¬ (Position.base b = .base c ∧ t = []) := by
  rintro ⟨same, rfl⟩
  obtain rfl := Position.base.inj same
  simp at busy

section Normal

variable (normal : d.IsNormal)
include normal

theorem exists_leaves {r : Range} {text : Text} (accepted : (d.submit r text).Accepted)
    (busy : ¬ (r.start = r.stop ∧ text = [])) : ∃ e, d.Leaves r text e := by
  obtain ⟨answer, taken⟩ := accepted
  obtain ⟨valid, clear⟩ := accepted_of_range taken
  obtain ⟨c, suits, _, pending, journal⟩ := submit_of_clear valid normal clear busy
  refine ⟨c.edit, clear, suits.fills, pending, fun solid f => ?_⟩
  simp [journal, stored_not_mem_encounters, Change.record, solid]

omit normal in
theorem Leaves.mem_pending {r : Range} {text : Text} {e : Edit} (leaves : d.Leaves r text e)
    (solid : e.isVoid = false) : e ∈ (d.submit r text).draft.pending.toList := by
  rw [leaves.pending, mem_changed]
  exact Or.inr ⟨rfl, solid⟩

theorem objection?_eq_none_iff {r : Range} (valid : d.HasRange r) :
    d.objection? r = none ↔ ¬ r.StopsInside ∧ ¬ d.Cuts r := by
  have clash := map_kind_objection normal valid
  rw [← Option.map_eq_none_iff, clash]
  by_cases inner : r.StopsInside
  · simp [inner]
  · by_cases cuts : d.Cuts r
    · simp [inner, cuts]
    · simp [inner, cuts]

theorem accepted_iff {a : Nat} {q : Position} (valid : d.HasRange ⟨.base a, q⟩)
    (outside : ¬ Range.StopsInside ⟨.base a, q⟩) {text : Text} (blank : text.IsBlank)
    (busy : ¬ (.base a = q ∧ text = [])) :
    (d.submit (Range.toSelection ⟨.base a, q⟩) text).Accepted ↔
      Text.IsBlank (textOf (d.segments ⟨.base a, q⟩)) ∧ (d.enclosed ⟨.base a, q⟩).length ≤ 1 := by
  have unopposed : d.objection? ⟨.base a, q⟩ = none ↔ (d.enclosed ⟨.base a, q⟩).length ≤ 1 := by
    rw [objection?_eq_none_iff normal valid, and_iff_right outside]
    exact Nat.not_lt
  rw [← unopposed]
  constructor
  · rintro ⟨answer, taken⟩
    exact ((refusal?_eq_none_iff busy).1 (accepted_of_range taken).2).2
  · intro open_to
    exact exists_ok_of_accepted normal valid ((refusal?_eq_none_iff busy).2 ⟨blank, open_to⟩)

theorem lead_of_free {b : Nat} (free : ∀ e ∈ d.pending.toList, e.stop ≠ b) :
    d.lead (.base b) = ⟨b, []⟩ := by
  have none : d.pending.stoppingAt? b = none :=
    (Patch.stoppingAt?_eq_none_iff normal.apart).2 fun e member stops =>
      free e member (Int.ofNat_inj.1 stops)
  simp only [lead, none, Option.elim_none]

theorem lead_of_mem {e : Edit} (held : e ∈ d.pending.toList) :
    d.lead (.base e.stop) = ⟨e.start, e.text⟩ := by
  have left : d.pending.stoppingAt? e.stop = some e :=
    (Patch.stoppingAt?_eq_some_iff normal.apart).2 ⟨held, rfl⟩
  simp only [lead, left, Option.elim_some]

theorem lead_changed_of_lt {o : Draft} (after : o.IsNormal) {e : Edit}
    (pending : o.pending.toList = d.changed e) {a : Nat} (before : a < e.start) :
    o.lead (.base a) = d.lead (.base a) := by
  have size := e.start_le_stop
  have same := stoppingAt?_changed normal pending after (x := a) (by omega)
    fun f _ stops => Or.inl (by omega)
  simp only [lead, same]

section Touching

variable {a b c : Nat} {s t : Text} (here : d.HasRange ⟨.base a, .base b⟩)
  (beyond : d.HasRange ⟨.base b, .base c⟩)
include here beyond

section LeftFirst

variable {e : Edit} (leaves : d.Leaves ⟨.base a, .base b⟩ s e)
include leaves

theorem hasRange_behind_left :
    (d.submit (Range.toSelection ⟨.base a, .base b⟩) s).draft.HasRange ⟨.base b, .base c⟩ := by
  have ordered := le_of_hasRange_base beyond
  have stays : ∀ o, b ≤ o → d.HasPosition (.base o) →
      (d.submit (Range.toSelection ⟨.base a, .base b⟩) s).draft.HasPosition (.base o) := by
    intro o later held
    refine (hasPosition_base_submit normal here leaves.clear).2 ⟨held, fun inside => ?_⟩
    have short : o < b := Position.anchor_base_lt_base.1 inside.2
    omega
  exact hasRange_base (stays b (Nat.le_refl b) beyond.1) (stays c ordered beyond.2.1) ordered

theorem accepted_behind_left (blank : t.IsBlank) (busy : ¬ (Position.base b = .base c ∧ t = [])) :
    ((d.submit (Range.toSelection ⟨.base a, .base b⟩) s).draft.submit
        (Range.toSelection ⟨.base b, .base c⟩) t).Accepted ↔
      (d.submit (Range.toSelection ⟨.base b, .base c⟩) t).Accepted := by
  have still := hasRange_behind_left normal here beyond leaves
  have after := normal_submit normal (Range.toSelection ⟨.base a, .base b⟩) s
  have text := textOf_of_cellsOf (cellsOf_submit_of_after normal here leaves.clear beyond still
    (Anchor.lt_irrefl _))
  have few : (d.submit (Range.toSelection ⟨.base a, .base b⟩) s).draft.enclosed
      ⟨.base b, .base c⟩ = d.enclosed ⟨.base b, .base c⟩ := by
    have stop : e.stop = b := leaves.fills.stop_eq
    simp only [enclosed, leaves.pending]
    apply filter_changed_of_apart normal
    intro f inside
    rw [decide_eq_true_eq] at inside
    omega
  rw [accepted_iff after still id blank busy, accepted_iff normal beyond id blank busy, text, few]

end LeftFirst

section RightFirst

variable (before : a < b) (free : ∀ e ∈ d.pending.toList, e.stop ≠ b) {g : Edit}
  (leaves : d.Leaves ⟨.base b, .base c⟩ t g) (solid : g.isVoid = false)

omit here beyond in
include free leaves in
theorem Leaves.start_eq_of_free : g.start = b := by
  have start : g.start = (d.lead (.base b)).offset := leaves.fills.start_eq
  rw [start, lead_of_free normal free]

omit here beyond in
include free leaves in
theorem Leaves.text_eq_of_free : g.text = t := by
  have text : g.text = (d.lead (.base b)).text ++ t ++ [] := leaves.fills.text_eq
  rw [text, lead_of_free normal free, List.nil_append, List.append_nil]

include before free leaves solid

theorem hasRange_before_right :
    (d.submit (Range.toSelection ⟨.base b, .base c⟩) t).draft.HasRange
      ⟨.base a, .within g 0⟩ := by
  have start := leaves.start_eq_of_free normal free
  refine ⟨(hasPosition_base_submit normal beyond leaves.clear).2 ⟨here.1, fun inside => ?_⟩,
    hasPosition_within.2 ⟨leaves.mem_pending solid, Nat.zero_le _⟩, ?_⟩
  · have late : ¬ a < b := fun less => inside.1 (Position.anchor_base_lt_base.2 less)
    exact late before
  · rw [Anchor.le_iff_not_lt, Position.anchor_within_lt_base]
    omega

omit here beyond before solid in
theorem front_at_right :
    (d.submit (Range.toSelection ⟨.base b, .base c⟩) t).draft.front (.within g 0) =
      d.front (.base b) := by
  have start := leaves.start_eq_of_free normal free
  have behind : ((d.changed g).filter fun f => f.stop < g.start) =
      d.pending.toList.filter fun f => f.stop ≤ b := by
    rw [filter_changed_of_apart normal]
    · refine List.filter_congr fun f member => decide_eq_decide.2 ?_
      have loose := free f member
      omega
    · intro f low
      rw [decide_eq_true_eq] at low
      exact Or.inl low
  have nothing : (ofEdit g 0 0).cells = [] := by
    apply List.eq_nil_of_length_eq_zero
    rw [length_cells, ofEdit, Text.slice_of_le _ (Nat.le_refl 0)]
    rfl
  rw [front, front, leaves.pending, behind, nothing, List.append_nil, start]
  rfl

theorem cellsOf_before_right :
    cellsOf ((d.submit (Range.toSelection ⟨.base b, .base c⟩) t).draft.segments
        ⟨.base a, .within g 0⟩) = cellsOf (d.segments ⟨.base a, .base b⟩) := by
  have spans := hasRange_before_right normal here beyond before free leaves solid
  have start := front_submit normal beyond leaves.clear here.1 (by simp)
    (Position.anchor_base_lt_base.2 before)
  have whole := front_stop_eq (normal_submit normal _ t) spans
  rw [front_at_right normal free leaves, start, front_stop_eq normal here] at whole
  exact (List.append_cancel_left whole).symm

omit here beyond before solid in
theorem enclosed_before_right :
    (d.submit (Range.toSelection ⟨.base b, .base c⟩) t).draft.enclosed ⟨.base a, .within g 0⟩ =
      d.enclosed ⟨.base a, .base b⟩ := by
  have start := leaves.start_eq_of_free normal free
  simp only [enclosed, leaves.pending]
  rw [filter_changed_of_apart normal]
  · refine List.filter_congr fun f member => decide_eq_decide.2 ?_
    have loose := free f member
    omega
  · intro f inside
    rw [decide_eq_true_eq] at inside
    exact Or.inl inside.2

theorem accepted_before_right (blank : s.IsBlank) :
    ((d.submit (Range.toSelection ⟨.base b, .base c⟩) t).draft.submit
        (Range.toSelection ⟨.base a, .within g 0⟩) s).Accepted ↔
      (d.submit (Range.toSelection ⟨.base a, .base b⟩) s).Accepted := by
  have spans := hasRange_before_right normal here beyond before free leaves solid
  have after := normal_submit normal (Range.toSelection ⟨.base b, .base c⟩) t
  have text := textOf_of_cellsOf (cellsOf_before_right normal here beyond before free leaves solid)
  have few := @enclosed_before_right d normal a b c t free g leaves
  have apart : ¬ (Position.base a = .base b ∧ s = []) := fun both =>
    Nat.ne_of_lt before (Position.base.inj both.1)
  rw [accepted_iff after spans (Nat.lt_irrefl 0) blank (by simp),
    accepted_iff normal here id blank apart, text, few]

end RightFirst

end Touching

section Both

variable {a b c : Nat} {s t : Text} (before : a < b) (free : ∀ e ∈ d.pending.toList, e.stop ≠ b) {e f g h : Edit}
  (left : d.Leaves ⟨.base a, .base b⟩ s e)
  (forward : (d.submit (Range.toSelection ⟨.base a, .base b⟩) s).draft.Leaves
    ⟨.base b, .base c⟩ t f)
  (right : d.Leaves ⟨.base b, .base c⟩ t g)
  (backward : (d.submit (Range.toSelection ⟨.base b, .base c⟩) t).draft.Leaves
    ⟨.base a, .within g 0⟩ s h)
include before left forward

theorem fills_forward : f.start = e.start ∧ f.stop = c ∧ f.text = e.text ++ t := by
  have reach := left.fills.start_le_of_base normal
  have stop : e.stop = b := left.fills.stop_eq
  have solid : e.isVoid = false := Edit.isVoid_eq_false (Or.inl (by omega))
  have lead := lead_of_mem (normal_submit normal _ s) (left.mem_pending solid)
  rw [stop] at lead
  have start := forward.fills.start_eq
  have text := forward.fills.text_eq
  rw [lead] at start text
  exact ⟨start, forward.fills.stop_eq, by simpa [Position.trail] using text⟩

include free right backward

theorem forward_eq_backward : h = f := by
  obtain ⟨start, stop, text⟩ := fills_forward normal before left forward
  have behind := right.start_eq_of_free normal free
  have lead := lead_changed_of_lt normal (normal_submit normal _ t) right.pending
    (a := a) (by omega)
  have first := backward.fills.start_eq
  have last := backward.fills.stop_eq
  have whole := backward.fills.text_eq
  rw [lead] at first whole
  apply Edit.ext
  · rw [first, start, left.fills.start_eq]
  · rw [last, stop]
    exact right.fills.stop_eq
  · rw [whole, text, left.fills.text_eq]
    simp [Position.trail, right.text_eq_of_free normal free]

theorem backward_eq_forward :
    ((d.submit (Range.toSelection ⟨.base b, .base c⟩) t).draft.submit
        (Range.toSelection ⟨.base a, .within g 0⟩) s).draft =
      ((d.submit (Range.toSelection ⟨.base a, .base b⟩) s).draft.submit
        (Range.toSelection ⟨.base b, .base c⟩) t).draft := by
  obtain ⟨start, stop, _⟩ := fills_forward normal before left forward
  have ordered := g.start_le_stop
  have reach := left.fills.start_le_of_base normal
  have low : e.stop = b := left.fills.stop_eq
  have high : g.stop = c := right.fills.stop_eq
  have behind := right.start_eq_of_free normal free
  obtain rfl := forward_eq_backward normal before free left forward right backward
  apply eq_of_pending
  · simp only [submit_base]
  · simp only [submit_config]
  · rw [backward.pending, forward.pending]
    rw [changed_of_covered normal right.pending (by omega) (by omega),
      changed_of_covered normal left.pending (by omega) (by omega)]

end Both

section Either

variable {a b c : Nat} {s t : Text} (here : d.HasRange ⟨.base a, .base b⟩)
  (beyond : d.HasRange ⟨.base b, .base c⟩) (before : a < b)
  (free : ∀ e ∈ d.pending.toList, e.stop ≠ b) (busy : b < c ∨ t ≠ [])

include before in
theorem exists_left (accepted : (d.submit (Range.toSelection ⟨.base a, .base b⟩) s).Accepted) :
    ∃ e, d.Leaves ⟨.base a, .base b⟩ s e :=
  exists_leaves normal accepted (not_idle_of_busy (Or.inl before))

include free busy in
theorem exists_right (accepted : (d.submit (Range.toSelection ⟨.base b, .base c⟩) t).Accepted) :
    ∃ g, d.Leaves ⟨.base b, .base c⟩ t g ∧ g.start = b ∧ g.isVoid = false := by
  obtain ⟨g, leaves⟩ := exists_leaves normal accepted (not_idle_of_busy busy)
  have start := leaves.start_eq_of_free normal free
  have stop : g.stop = c := leaves.fills.stop_eq
  have text := leaves.text_eq_of_free normal free
  refine ⟨g, leaves, start, Edit.isVoid_eq_false ?_⟩
  rw [start, stop, text]
  exact busy

include here beyond before free busy

theorem accepted_either_order (blank : s.IsBlank) (white : t.IsBlank) :
    ((d.submit (Range.toSelection ⟨.base a, .base b⟩) s).Accepted ∧
      ((d.submit (Range.toSelection ⟨.base a, .base b⟩) s).draft.submit
        (Range.toSelection ⟨.base b, .base c⟩) t).Accepted) ↔
      (d.submit (Range.toSelection ⟨.base b, .base c⟩) t).Accepted ∧
        ∃ g, .stored g ∈ (d.submit (Range.toSelection ⟨.base b, .base c⟩) t).journal ∧
          g.start = b ∧ ((d.submit (Range.toSelection ⟨.base b, .base c⟩) t).draft.submit
            (Range.toSelection ⟨.base a, .within g 0⟩) s).Accepted := by
  constructor
  · rintro ⟨one, two⟩
    obtain ⟨e, onLeft⟩ := exists_left normal before one
    have other :=
      (accepted_behind_left normal here beyond onLeft white (not_idle_of_busy busy)).1 two
    obtain ⟨g, onRight, start, solid⟩ := exists_right normal free busy other
    refine ⟨other, g, (onRight.stored solid g).2 rfl, start, ?_⟩
    exact (accepted_before_right normal here beyond before free onRight solid blank).2 one
  · rintro ⟨other, g, stored, _, back⟩
    obtain ⟨f, onRight, _, solid⟩ := exists_right normal free busy other
    obtain rfl := (onRight.stored solid g).1 stored
    have one := (accepted_before_right normal here beyond before free onRight solid blank).1 back
    obtain ⟨e, onLeft⟩ := exists_left normal before one
    exact ⟨one,
      (accepted_behind_left normal here beyond onLeft white (not_idle_of_busy busy)).2 other⟩

theorem draft_either_order (blank : s.IsBlank) (white : t.IsBlank) {g : Edit}
    (stored : .stored g ∈ (d.submit (Range.toSelection ⟨.base b, .base c⟩) t).journal)
    (one : (d.submit (Range.toSelection ⟨.base a, .base b⟩) s).Accepted)
    (two : ((d.submit (Range.toSelection ⟨.base a, .base b⟩) s).draft.submit
      (Range.toSelection ⟨.base b, .base c⟩) t).Accepted) :
    ((d.submit (Range.toSelection ⟨.base b, .base c⟩) t).draft.submit
        (Range.toSelection ⟨.base a, .within g 0⟩) s).draft =
      ((d.submit (Range.toSelection ⟨.base a, .base b⟩) s).draft.submit
        (Range.toSelection ⟨.base b, .base c⟩) t).draft := by
  obtain ⟨e, onLeft⟩ := exists_left normal before one
  obtain ⟨f, last⟩ := exists_leaves (normal_submit normal _ s) two (not_idle_of_busy busy)
  have other := (accepted_behind_left normal here beyond onLeft white (not_idle_of_busy busy)).1 two
  obtain ⟨k, onRight, _, solid⟩ := exists_right normal free busy other
  obtain rfl := (onRight.stored solid g).1 stored
  have back := (accepted_before_right normal here beyond before free onRight solid blank).2 one
  obtain ⟨h, joined⟩ := exists_leaves (normal_submit normal _ t) back (by simp)
  exact backward_eq_forward normal before free onLeft last onRight joined

omit here beyond free in
theorem exists_merged (ordered : b ≤ c)
    (one : (d.submit (Range.toSelection ⟨.base a, .base b⟩) s).Accepted)
    (two : ((d.submit (Range.toSelection ⟨.base a, .base b⟩) s).draft.submit
      (Range.toSelection ⟨.base b, .base c⟩) t).Accepted) :
    ∃ e ∈ ((d.submit (Range.toSelection ⟨.base a, .base b⟩) s).draft.submit
        (Range.toSelection ⟨.base b, .base c⟩) t).draft.pending.toList,
      e.start ≤ a ∧ e.stop = c ∧ (s ++ t) <:+ e.text := by
  obtain ⟨e, onLeft⟩ := exists_left normal before one
  obtain ⟨f, last⟩ := exists_leaves (normal_submit normal _ s) two (not_idle_of_busy busy)
  obtain ⟨start, stop, text⟩ := fills_forward normal before onLeft last
  have reach := onLeft.fills.start_le_of_base normal
  refine ⟨f, last.mem_pending (Edit.isVoid_eq_false (Or.inl (by omega))), by omega, stop, ?_⟩
  have whole : e.text = (d.lead (.base a)).text ++ s ++ [] := onLeft.fills.text_eq
  rw [text, whole, List.append_nil, List.append_assoc]
  exact List.suffix_append _ _

end Either

end Normal

/-- Submissions over touching stretches of base text are taken in either order or in neither, and
both orders store one edit with both texts. -/
theorem touching_submissions_merge {base : Text} {config : Config}
    (reached : Reachable base config d) {a b c : Nat} (first : d.HasPosition (.base a))
    (second : d.HasPosition (.base b)) (third : d.HasPosition (.base c)) (before : a < b)
    (ordered : b ≤ c) {s t : Text} (blank : s.IsBlank) (white : t.IsBlank)
    (busy : b < c ∨ t ≠ []) (free : ∀ e ∈ d.pending.toList, e.stop ≠ b) :
    let left := d.submit ⟨some (.base a), some (.base b)⟩ s
    let forward := left.draft.submit ⟨some (.base b), some (.base c)⟩ t
    let right := d.submit ⟨some (.base b), some (.base c)⟩ t
    let backward (g : Edit) := right.draft.submit ⟨some (.base a), some (.within g 0)⟩ s
    (right.Accepted → ∃ g ∈ right.draft.pending.toList, g.start = b ∧
      ∀ f, .stored f ∈ right.journal ↔ f = g) ∧
    (left.Accepted ∧ forward.Accepted ↔
      right.Accepted ∧ ∃ g, .stored g ∈ right.journal ∧ g.start = b ∧ (backward g).Accepted) ∧
    ∀ g, .stored g ∈ right.journal → left.Accepted → forward.Accepted →
      (backward g).draft = forward.draft ∧
        ∃ e ∈ forward.draft.pending.toList, e.start ≤ a ∧ e.stop = c ∧ (s ++ t) <:+ e.text := by
  have normal := reached.normal
  have here := hasRange_base first second (Nat.le_of_lt before)
  have beyond := hasRange_base second third ordered
  refine ⟨fun accepted => ?_, ?_, fun g stored one two => ⟨?_, ?_⟩⟩
  · obtain ⟨g, onRight, start, solid⟩ := exists_right normal free busy accepted
    exact ⟨g, onRight.mem_pending solid, start, onRight.stored solid⟩
  · exact accepted_either_order normal here beyond before free busy blank white
  · exact draft_either_order normal here beyond before free busy blank white stored one two
  · exact exists_merged normal before busy ordered one two

theorem touching_submissions_merge_joined :
    let d := (ofBase ['a', ' ', ' ', ' ', ' ', ' ', 'b'] .standard).after
      [⟨⟨some (.base 1), some (.base 1)⟩, ['\n']⟩, ⟨⟨some (.base 2), some (.base 2)⟩, ['\n']⟩,
        ⟨⟨some (.base 5), some (.base 5)⟩, ['\n']⟩]
    let g : Edit := ⟨3, 6, ['\t'], by decide, by decide⟩
    let left := d.submit ⟨some (.base 1), some (.base 3)⟩ [' ']
    let forward := left.draft.submit ⟨some (.base 3), some (.base 6)⟩ ['\t']
    let right := d.submit ⟨some (.base 3), some (.base 6)⟩ ['\t']
    let backward := right.draft.submit ⟨some (.base 1), some (.within g 0)⟩ [' ']
    d.HasPosition (.base 1) ∧ d.HasPosition (.base 3) ∧ d.HasPosition (.base 6) ∧
      (∀ e ∈ d.pending.toList, e.stop ≠ 3) ∧ left.Accepted ∧ forward.Accepted ∧
      .stored g ∈ right.journal ∧ backward.draft = forward.draft ∧
      forward.draft.rendered = ['a', '\n', ' ', '\t', 'b'] := by
  intro d g left forward right backward
  have reached : Reachable ['a', ' ', ' ', ' ', ' ', ' ', 'b'] .standard d :=
    Reachable.start.after _
  have first : d.HasPosition (.base 1) := by decide +kernel
  have second : d.HasPosition (.base 3) := by decide +kernel
  have third : d.HasPosition (.base 6) := by decide +kernel
  have free : ∀ e ∈ d.pending.toList, e.stop ≠ 3 := by decide +kernel
  have one : left.Accepted := Submission.exists_ok_of_isOk (by decide +kernel)
  have two : forward.Accepted := Submission.exists_ok_of_isOk (by decide +kernel)
  have stored : .stored g ∈ right.journal := by decide +kernel
  obtain ⟨_, _, merged⟩ := touching_submissions_merge reached first second third (by decide)
    (by decide) (s := [' ']) (t := ['\t']) (by decide) (by decide) (Or.inl (by decide)) free
  exact ⟨first, second, third, free, one, two, stored, (merged g stored one two).1,
    by decide +kernel⟩

end Draft
end Spacing
