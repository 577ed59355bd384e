import Spacing.Proofs.Removal

/-! The frame of a submission. What a range takes away lies in a row of pending edits, and in the
place of the row at most one edit is put. In front of the range the edited text reads as before,
cell by cell, and so it does behind the range, so a position that is kept there keeps its distance
from that side of the text. -/
namespace Spacing

theorem Text.length_splice (text inserted : Text) {start stop : Int} (low : 0 ≤ start)
    (ordered : start ≤ stop) (high : stop ≤ text.length) :
    ((text.splice start stop inserted).length : Int) =
      text.length + (inserted.length - (stop - start)) := by
  simp only [splice, List.length_append, List.length_take, List.length_drop]
  omega

theorem eq_filter_append_within {es : List Edit} {lo hi : Nat} (ordered : lo ≤ hi)
    (ascending : es.Pairwise fun a b => a.start < b.start)
    (cut : ∀ f ∈ es, f.stop < lo ∨ (lo ≤ f.start ∧ f.stop ≤ hi) ∨ hi < f.start) :
    es = (es.filter fun f => f.stop < lo) ++
      (es.filter fun f => lo ≤ f.start ∧ f.stop ≤ hi) ++ es.filter fun f => hi < f.start := by
  apply eq_of_ascending ascending
  · refine List.pairwise_append.2 ⟨List.pairwise_append.2
      ⟨ascending.filter _, ascending.filter _, ?_⟩, ascending.filter _, ?_⟩
    · intro f behind g within
      have low : f.stop < lo := by simpa using (List.mem_filter.1 behind).2
      have inside : lo ≤ g.start ∧ g.stop ≤ hi := by simpa using (List.mem_filter.1 within).2
      have size := f.start_le_stop
      omega
    · intro f first g ahead
      have high : hi < g.start := by simpa using (List.mem_filter.1 ahead).2
      have size := f.start_le_stop
      rcases List.mem_append.1 first with behind | within
      · have low : f.stop < lo := by simpa using (List.mem_filter.1 behind).2
        omega
      · have inside : lo ≤ f.start ∧ f.stop ≤ hi := by simpa using (List.mem_filter.1 within).2
        omega
  · intro f
    simp only [List.mem_append, List.mem_filter, decide_eq_true_eq, ← and_or_left, or_assoc]
    exact (and_iff_left_of_imp fun member => cut f member).symm

namespace Draft

/-- Edits that a submission over the range may take away: those its ends stand in, those inside it,
and the one that stops where it starts in base text. -/
def GivesWay (d : Draft) (r : Range) (f : Edit) : Prop :=
  (∃ k, r.start = .within f k ∨ r.stop = .within f k) ∨ f ∈ d.enclosed r ∨
    ∃ a, r.start = .base a ∧ f.stop = a

variable {d : Draft}

theorem eq_of_accepted {e f : Edit} {k m : Nat} {text : Text}
    (clear : d.refusal? ⟨.within e k, .within f m⟩ text = none) : e = f := by
  by_contra other
  have busy : ¬ (Position.within e k = .within f m ∧ text = []) := by simp [other]
  have unopposed := ((refusal?_eq_none_iff busy).1 clear).2.2
  simp [objection?, other] at unopposed

section Normal

variable (normal : d.IsNormal)
include normal

theorem offset_add_length_back {p : Position} (valid : d.HasPosition p) :
    d.offset p + (d.back p).length = d.rendered.length := by
  rw [← length_front normal valid, rendered_eq normal, List.length_map,
    cells_eq_front_append_back normal valid, List.length_append, Int.natCast_add]

theorem stops_or_ahead_of_lead_le {a : Nat} (valid : d.HasPosition (.base a)) {f : Edit}
    (member : f ∈ d.pending.toList) (low : (d.lead (.base a)).offset ≤ f.start) :
    f.stop = a ∨ a < f.start := by
  have size := f.start_le_stop
  have spared := ((hasPosition_base normal).1 valid).2 f member
  rw [lead_base_offset] at low
  cases left : d.pending.stoppingAt? a with
  | none =>
    rw [left, Option.elim_none] at low
    omega
  | some l =>
    obtain ⟨held, stops⟩ := (Patch.stoppingAt?_eq_some_iff normal.apart).1 left
    rw [left, Option.elim_some] at low
    rcases apart_or normal.apart held member with rfl | later | earlier
    · omega
    · omega
    · omega

section Accepted

variable {r : Range} {text : Text} (valid : d.HasRange r) (clear : d.refusal? r text = none)
include valid clear

theorem givesWay_of_within {e f : Edit} (fills : d.Fills r text e) (member : f ∈ d.pending.toList)
    (low : e.start ≤ f.start) (high : f.stop ≤ e.stop) : d.GivesWay r f := by
  have size := f.start_le_stop
  obtain ⟨start, stop⟩ := r
  rw [fills.start_eq] at low
  rw [fills.stop_eq] at high
  cases start with
  | base a =>
    rcases stops_or_ahead_of_lead_le normal valid.1 member low with touching | beyond
    · exact Or.inr (Or.inr ⟨a, rfl, touching⟩)
    · cases stop with
      | base b =>
        refine Or.inr (Or.inl (List.mem_filter.2 ⟨member, ?_⟩))
        simpa using ⟨beyond, high⟩
      | within g m =>
        have held := (hasPosition_within.1 valid.2.1).1
        simp only [Position.trail] at high
        rcases apart_or normal.apart held member with rfl | later | earlier
        · exact Or.inl ⟨m, Or.inr rfl⟩
        · omega
        · refine Or.inr (Or.inl (List.mem_filter.2 ⟨member, ?_⟩))
          simpa using ⟨beyond, earlier⟩
  | within g k =>
    have held := (hasPosition_within.1 valid.1).1
    have order := g.start_le_stop
    simp only [lead] at low
    rcases apart_or normal.apart held member with rfl | later | earlier
    · exact Or.inl ⟨k, Or.inl rfl⟩
    · cases stop with
      | base b =>
        refine Or.inr (Or.inl (List.mem_filter.2 ⟨member, ?_⟩))
        simpa using ⟨later, high⟩
      | within h m =>
        obtain rfl := eq_of_accepted clear
        simp only [Position.trail] at high
        omega
    · omega

theorem exists_row {e : Edit} (fills : d.Fills r text e) :
    ∃ taken, d.pending.toList = (d.pending.toList.filter fun f => f.stop < e.start) ++ taken ++
        (d.pending.toList.filter fun f => e.stop < f.start) ∧
      ∀ f ∈ taken, d.GivesWay r f := by
  refine ⟨d.pending.toList.filter fun f => e.start ≤ f.start ∧ f.stop ≤ e.stop, ?_, ?_⟩
  · apply eq_filter_append_within e.start_le_stop d.pending.ascending
    intro f member
    exact fills.behind_or_within_or_ahead normal valid member
  · intro f within
    obtain ⟨member, bounds⟩ := List.mem_filter.1 within
    have inside : e.start ≤ f.start ∧ f.stop ≤ e.stop := by simpa using bounds
    exact givesWay_of_within normal valid clear fills member inside.1 inside.2

theorem length_rendered_submit : ((d.submit r text).draft.rendered.length : Int) =
    d.rendered.length + (text.length - (d.offset r.stop - d.offset r.start)) := by
  obtain ⟨answer, taken⟩ := exists_ok_of_accepted normal valid clear
  obtain ⟨q, asked, _, spliced⟩ := submit_eq_splice normal taken
  obtain rfl := Range.toSelection_inj.1 asked
  have ends := offset_stop_eq normal valid
  have last := offset_le_length normal valid.2.1
  rw [spliced]
  exact Text.length_splice _ _ (offset_nonneg normal valid.1) (by omega) last

section Kept

variable {p : Position} (held : d.HasPosition p)
  (kept : ∀ e k, p = .within e k → e ∈ (d.submit r text).draft.pending.toList)
include held kept

theorem hasPosition_submit (outside : ¬ (r.start.anchor ≤ p.anchor ∧ p.anchor < r.stop.anchor)) :
    (d.submit r text).draft.HasPosition p := by
  cases p with
  | base o => exact (hasPosition_base_submit normal valid clear).2 ⟨held, outside⟩
  | within f k => exact hasPosition_within.2 ⟨kept f k rfl, (hasPosition_within.1 held).2⟩

theorem front_submit (before : p.anchor < r.start.anchor) :
    (d.submit r text).draft.front p = d.front p := by
  obtain ⟨e, fills, pending⟩ := submit_of_accepted normal valid clear
  cases p with
  | base o =>
    have free := ((hasPosition_base normal).1 held).2
    have low := lt_lead_of_survives normal valid.1 free before
    rw [← fills.start_eq] at low
    rw [front, front, pending, submit_base, filter_changed_of_apart normal]
    intro f behind
    rw [decide_eq_true_eq] at behind
    omega
  | within f k =>
    have member := kept f k rfl
    have size := f.start_le_stop
    rw [pending, mem_changed] at member
    rw [front, front, pending, submit_base, filter_changed_of_apart normal]
    intro g behind
    rw [decide_eq_true_eq] at behind
    rcases member with ⟨_, low | high⟩ | ⟨rfl, _⟩
    · omega
    · rw [fills.stop_eq] at high
      have after := anchor_lt_of_trail_lt high k
      exact absurd (Anchor.lt_trans after before) valid.2.2
    · exact Or.inl behind

theorem back_submit (after : r.stop.anchor ≤ p.anchor) :
    (d.submit r text).draft.back p = d.back p := by
  obtain ⟨e, fills, pending⟩ := submit_of_accepted normal valid clear
  cases p with
  | base o =>
    have free := ((hasPosition_base normal).1 held).2
    have high := trail_le_of_survives valid.2.1 free after
    rw [← fills.stop_eq] at high
    rw [back, back, pending, submit_base, filter_changed_of_apart normal]
    intro f ahead
    rw [decide_eq_true_eq] at ahead
    omega
  | within f k =>
    have member := kept f k rfl
    have size := f.start_le_stop
    rw [pending, mem_changed] at member
    rw [back, back, pending, submit_base, filter_changed_of_apart normal]
    intro g ahead
    rw [decide_eq_true_eq] at ahead
    rcases member with ⟨_, low | high⟩ | ⟨rfl, _⟩
    · rw [fills.start_eq] at low
      have before := anchor_lt_of_lt_lead normal low k
      have order := Anchor.lt_of_lt_of_le before valid.2.2
      exact absurd order after
    · omega
    · exact Or.inr ahead

theorem submit_of_before (before : p.anchor < r.start.anchor) :
    (d.submit r text).draft.HasPosition p ∧
      (d.submit r text).draft.offset p = d.offset p := by
  have outside : ¬ (r.start.anchor ≤ p.anchor ∧ p.anchor < r.stop.anchor) := fun inside =>
    inside.1 before
  have present := hasPosition_submit normal valid clear held kept outside
  refine ⟨present, ?_⟩
  rw [← length_front (normal_submit normal r text) present, ← length_front normal held,
    front_submit normal valid clear held kept before]

theorem submit_of_after (after : r.stop.anchor ≤ p.anchor) :
    (d.submit r text).draft.HasPosition p ∧ (d.submit r text).draft.offset p =
      d.offset p + (text.length - (d.offset r.stop - d.offset r.start)) := by
  have outside : ¬ (r.start.anchor ≤ p.anchor ∧ p.anchor < r.stop.anchor) := fun inside =>
    after inside.2
  have present := hasPosition_submit normal valid clear held kept outside
  refine ⟨present, ?_⟩
  have whole := offset_add_length_back (normal_submit normal r text) present
  have earlier := offset_add_length_back normal held
  have size := length_rendered_submit normal valid clear
  rw [back_submit normal valid clear held kept after] at whole
  omega

end Kept

end Accepted

end Normal

/-- A submission leaves everything outside its range alone. -/
theorem submission_keeps_frame {base : Text} {config : Config} (reached : Reachable base config d)
    {s : Selection} {text : Text} {answer : Range}
    (taken : (d.submit s text).result = .ok answer) :
    ∃ r : Range, s = r.toSelection ∧ d.HasRange r ∧
      (∃ behind row fresh ahead, d.pending.toList = behind ++ row ++ ahead ∧
        (d.submit s text).draft.pending.toList = behind ++ fresh ++ ahead ∧
        fresh.length ≤ 1 ∧ ∀ f ∈ row, d.GivesWay r f) ∧
      ∀ p, d.HasPosition p →
        (∀ e k, p = .within e k → e ∈ (d.submit s text).draft.pending.toList) →
        (p.anchor < r.start.anchor → (d.submit s text).draft.HasPosition p ∧
          (d.submit s text).draft.offset p = d.offset p) ∧
        (r.stop.anchor ≤ p.anchor → (d.submit s text).draft.HasPosition p ∧
          (d.submit s text).draft.offset p =
            d.offset p + (text.length - (d.offset r.stop - d.offset r.start))) := by
  have normal := reached.normal
  obtain ⟨r, rfl, valid, clear⟩ := accepted_of_taken taken
  refine ⟨r, rfl, valid, ?_, ?_⟩
  · obtain ⟨e, fills, pending⟩ := submit_of_accepted normal valid clear
    obtain ⟨row, split, gives⟩ := exists_row normal valid clear fills
    refine ⟨_, row, if e.isVoid then [] else [e], _, split, pending, ?_, gives⟩
    cases e.isVoid <;> simp
  · intro p held kept
    constructor
    · intro before
      exact submit_of_before normal valid clear held kept before
    · intro after
      exact submit_of_after normal valid clear held kept after

theorem submission_keeps_frame_joined :
    let g : Edit := ⟨5, 5, ['\n'], by decide, by decide⟩
    let d := (ofBase ['a', ' ', ' ', ' ', ' ', ' ', 'b'] .standard).after
      [⟨⟨some (.base 1), some (.base 2)⟩, ['\n']⟩, ⟨⟨some (.base 3), some (.base 3)⟩, ['\t']⟩,
        ⟨⟨some (.base 5), some (.base 5)⟩, ['\n']⟩]
    let o := (d.submit ⟨some (.base 2), some (.base 4)⟩ ['\t']).draft
    d.rendered = ['a', '\n', ' ', '\t', ' ', ' ', '\n', ' ', 'b'] ∧
      o.rendered = ['a', '\n', '\t', ' ', '\n', ' ', 'b'] ∧
      o.HasPosition (.within g 0) ∧ o.offset (.within g 0) = d.offset (.within g 0) - 2 ∧
      o.HasPosition (.base 0) ∧ o.offset (.base 0) = d.offset (.base 0) := by
  intro g d o
  obtain ⟨answer, taken⟩ : ∃ answer,
      (d.submit ⟨some (.base 2), some (.base 4)⟩ ['\t']).result = .ok answer :=
    Submission.exists_ok_of_isOk (by decide +kernel)
  obtain ⟨r, asked, _, _, moves⟩ := submission_keeps_frame (Reachable.start.after _ :
    Reachable ['a', ' ', ' ', ' ', ' ', ' ', 'b'] .standard d) taken
  obtain rfl : ⟨.base 2, .base 4⟩ = r := Range.toSelection_inj.1 asked
  have kept : ∀ e k, Position.within g 0 = .within e k → e ∈ o.pending.toList := by
    intro e k same
    obtain ⟨rfl, rfl⟩ := Position.within.inj same
    decide +kernel
  have behind := (moves (.within g 0) (by decide +kernel) kept).2 (by decide)
  have ahead := (moves (.base 0) (by decide +kernel) (by simp)).1 (by decide)
  exact ⟨by decide +kernel, by decide +kernel, behind.1, behind.2.trans (by decide +kernel),
    ahead⟩

end Draft
end Spacing
