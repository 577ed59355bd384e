import Spacing.Draft.Query
import Spacing.Proofs.Offset

namespace Spacing.Draft

open Segment

variable {d : Draft}

theorem back_eq_opening (p : Position) :
    d.back p = cellsOf (opening p).2 ++ stretch d.base (opening p).1 d.base.length
      (d.pending.toList.filter fun e => (opening p).1 < e.start) := by
  cases p with
  | base o => rfl
  | within e k => exact congrArg (· ++ _) (List.append_nil _).symm

def Reaches (cursor : Nat) : Position → Prop
  | .base o => cursor ≤ o
  | .within e _ => cursor < e.start

variable (normal : d.IsNormal)
include normal

theorem tail_eq_closing_base {cursor o : Nat} (valid : d.HasPosition (.base o))
    (ahead : cursor ≤ o) :
    stretch d.base cursor d.base.length (d.pending.toList.filter fun e => cursor < e.start) =
      stretch d.base cursor o (Segment.inner d.pending cursor o (.base o)) ++
        d.back (.base o) := by
  obtain ⟨bound, free⟩ := (hasPosition_base normal).1 valid
  have inside : Segment.inner d.pending cursor o (.base o) =
      (d.pending.toList.filter fun e => cursor < e.start).filter fun e => e.stop ≤ o := by
    rw [Segment.inner, Patch.between_eq, List.filter_filter, List.filter_filter]
    refine List.filter_congr fun e _ => ?_
    rw [Bool.eq_iff_iff]
    simp only [Bool.and_eq_true, decide_eq_true_eq]
    omega
  have between : Placed cursor o
      ((d.pending.toList.filter fun e => cursor < e.start).filter fun e => e.stop ≤ o) := by
    refine .filter (normal.apart.filter _) ahead fun e member low => ⟨?_, by simpa using low⟩
    exact Nat.le_of_lt (by simpa using (List.mem_filter.1 member).2)
  conv => lhs; rw [← filter_after_of_survives normal.apart ahead free]
  rw [stretch_append between (placed_behind normal bound), inside]
  rfl

theorem tail_eq_closing_within {cursor k : Nat} {f : Edit} (valid : d.HasPosition (.within f k))
    (ahead : cursor < f.start) :
    stretch d.base cursor d.base.length (d.pending.toList.filter fun e => cursor < e.start) =
      stretch d.base cursor f.start (Segment.inner d.pending cursor f.start (.within f k)) ++
        (ofEdit f 0 k).cells ++ d.back (.within f k) := by
  obtain ⟨held, bound⟩ := hasPosition_within.1 valid
  have size := f.start_le_stop
  have inside : Segment.inner d.pending cursor f.start (.within f k) =
      (d.pending.toList.filter fun e => cursor < e.start).filter fun e => e.stop < f.start := by
    rw [Segment.inner, Patch.between_eq, List.filter_filter, List.filter_filter]
    refine List.filter_congr fun e present => ?_
    have order := e.start_le_stop
    rw [Bool.eq_iff_iff]
    simp only [Bool.and_eq_true, decide_eq_true_eq]
    rcases apart_or normal.apart held present with rfl | later | earlier
    · omega
    · omega
    · omega
  have parts : (ofEdit f 0 k).cells ++ (ofEdit f k f.text.length).cells =
      (ofEdit f 0 f.text.length).cells :=
    cells_slice_append f.text (some f) (Nat.zero_le k) bound
  conv => lhs; rw [← filter_after_of_mem normal.apart held ahead]
  rw [stretch_append_cons, ← parts, inside]
  simp only [back, List.append_assoc]

theorem tail_eq_closing {cursor : Nat} {q : Position} (valid : d.HasPosition q)
    (reaches : Reaches cursor q) :
    stretch d.base cursor d.base.length (d.pending.toList.filter fun e => cursor < e.start) =
      stretch d.base cursor (closing q).1 (Segment.inner d.pending cursor (closing q).1 q) ++
        cellsOf (closing q).2 ++ d.back q := by
  cases q with
  | base o =>
    rw [tail_eq_closing_base normal valid reaches]
    simp [closing, cellsOf]
  | within f k =>
    rw [tail_eq_closing_within normal valid reaches]
    simp [closing, cellsOf]

def InOneEdit (r : Range) : Prop := ∃ e lo hi, r = ⟨.within e lo, .within e hi⟩

omit normal in
theorem segments_of_not_inOneEdit {r : Range} (apart : ¬ InOneEdit r) :
    d.segments r = (across d.base d.pending r).filter fun s => !s.text.isEmpty := by
  obtain ⟨start, stop⟩ := r
  cases start with
  | base a => rfl
  | within e lo =>
    cases stop with
    | base b => rfl
    | within f hi =>
      have other : e ≠ f := fun same => apart ⟨e, lo, hi, by rw [same]⟩
      simp only [segments, ofRange, if_neg other]

theorem reaches_of_not_inOneEdit {r : Range} (valid : d.HasRange r) (apart : ¬ InOneEdit r) :
    Reaches (opening r.start).1 r.stop := by
  obtain ⟨start, stop⟩ := r
  obtain ⟨first, second, order⟩ := valid
  rw [Anchor.le_iff_not_lt] at order
  cases start with
  | base a => cases stop <;> simpa [Reaches, opening] using order
  | within e lo =>
    have held := (hasPosition_within.1 first).1
    cases stop with
    | base b =>
      have spared := ((hasPosition_base normal).1 second).2 e held
      have low : ¬ b < e.start := by simpa using order
      simp only [Reaches, opening]
      omega
    | within f hi =>
      have size := f.start_le_stop
      rcases apart_or normal.apart held (hasPosition_within.1 second).1 with same | later | earlier
      · exact absurd ⟨e, lo, hi, by rw [same]⟩ apart
      · exact later
      · exact absurd (by simp only [Position.anchor_within_lt_within]; omega) order

theorem back_start_eq {r : Range} (valid : d.HasRange r) :
    d.back r.start = cellsOf (d.segments r) ++ d.back r.stop := by
  by_cases one : InOneEdit r
  · obtain ⟨e, lo, hi, rfl⟩ := one
    obtain ⟨_, second, order⟩ := valid
    have ordered : lo ≤ hi := by simpa [Anchor.le_iff_not_lt] using order
    have bound := (hasPosition_within.1 second).2
    have parts : (ofEdit e lo hi).cells ++ (ofEdit e hi e.text.length).cells =
        (ofEdit e lo e.text.length).cells :=
      cells_slice_append e.text (some e) ordered bound
    simp [back, segments, ofRange, cellsOf, ← parts]
  · have tail := tail_eq_closing normal valid.2.1 (reaches_of_not_inOneEdit normal valid one)
    rw [back_eq_opening, tail, segments_of_not_inOneEdit one, cellsOf_filter, across,
      cellsOf_append, cellsOf_append]
    simp only [List.append_assoc]
    rfl

/-- A valid range cuts the edited text into what is before it, its segments and what is after it. -/
theorem cells_eq_range {r : Range} (valid : d.HasRange r) :
    d.cells = d.front r.start ++ cellsOf (d.segments r) ++ d.back r.stop := by
  rw [cells_eq_front_append_back normal valid.1, back_start_eq normal valid, List.append_assoc]

theorem getElem?_cells_of_range {r : Range} (valid : d.HasRange r) {n : Nat}
    (bound : n < (cellsOf (d.segments r)).length) :
    d.cells[(d.front r.start).length + n]? = (cellsOf (d.segments r))[n]? := by
  rw [cells_eq_range normal valid, List.append_assoc, List.getElem?_append_right (by omega),
    Nat.add_sub_cancel_left, List.getElem?_append_left bound]

theorem front_stop_eq {r : Range} (valid : d.HasRange r) :
    d.front r.stop = d.front r.start ++ cellsOf (d.segments r) := by
  have whole := cells_eq_range normal valid
  rw [cells_eq_front_append_back normal valid.2.1] at whole
  exact List.append_cancel_right whole

/-- The walk over a range meets the cells between the anchors of its ends. -/
theorem mem_cellsOf_segments_iff {r : Range} (valid : d.HasRange r) {c : Cell} :
    c ∈ cellsOf (d.segments r) ↔
      c ∈ d.cells ∧ r.start.anchor ≤ c.position.anchor ∧ c.position.anchor < r.stop.anchor := by
  have whole := cells_eq_range normal valid
  constructor
  · intro inside
    refine ⟨?_, le_of_mem_back normal valid.1 ?_, before_of_mem_front normal valid.2.1 ?_⟩
    · rw [whole]
      exact List.mem_append_left _ (List.mem_append_right _ inside)
    · rw [back_start_eq normal valid]
      exact List.mem_append_left _ inside
    · rw [front_stop_eq normal valid]
      exact List.mem_append_right _ inside
  · rintro ⟨member, low, high⟩
    rw [whole, List.append_assoc, List.mem_append, List.mem_append] at member
    rcases member with early | inside | late
    · have before := before_of_mem_front normal valid.1 early
      exact absurd (Anchor.lt_of_lt_of_le before low) (Anchor.lt_irrefl _)
    · exact inside
    · have after := le_of_mem_back normal valid.2.1 late
      exact absurd (Anchor.lt_of_le_of_lt after high) (Anchor.lt_irrefl _)

theorem cellsOf_segments_ascending {r : Range} (valid : d.HasRange r) :
    (cellsOf (d.segments r)).Pairwise Cell.Before := by
  have sorted := cells_ascending normal
  rw [cells_eq_range normal valid] at sorted
  exact (List.pairwise_append.1 (List.pairwise_append.1 sorted).1).2.1

theorem offset_stop_eq {r : Range} (valid : d.HasRange r) :
    d.offset r.stop = d.offset r.start + (cellsOf (d.segments r)).length := by
  rw [← length_front normal valid.1, ← length_front normal valid.2.1, front_stop_eq normal valid,
    List.length_append, Int.natCast_add]

end Spacing.Draft
