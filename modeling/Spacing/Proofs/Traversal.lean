import Spacing.Proofs.NormalForm
import Spacing.Proofs.Rendering

namespace Spacing.Draft

open Segment

variable {d : Draft}

theorem buildPosition_eq_ok {v : Visit} (valid : d.HasPosition v.position) :
    v.segment.buildPosition v.index = .ok v.position := by
  obtain ⟨⟨text, origin, source⟩, index, char⟩ := v
  cases source with
  | none => exact Position.inBase_eq_ok _
  | some e => exact Position.inEdit_eq_ok (hasPosition_within.1 valid).2

section Normal

variable (normal : d.IsNormal) {r : Range} (valid : d.HasRange r)
include normal valid

theorem cell_of_visit {n : Nat} {v : Visit}
    (found : (walk (d.segments r) .forward)[n]? = some v) :
    v.cell ∈ cellsOf (d.segments r) ∧ d.cells[(d.front r.start).length + n]? = some v.cell := by
  have read : (cellsOf (d.segments r))[n]? = some v.cell := by
    rw [← walk_forward_cells, List.getElem?_map, found, Option.map_some]
  refine ⟨List.mem_of_getElem? read, ?_⟩
  rw [getElem?_cells_of_range normal valid (List.getElem?_eq_some_iff.1 read).1, read]

theorem between_of_mem_cellsOf {c : Cell} (member : c ∈ cellsOf (d.segments r)) :
    r.start.anchor ≤ c.position.anchor ∧ c.position.anchor < r.stop.anchor :=
  ((mem_cellsOf_segments_iff normal valid).1 member).2

omit normal in
theorem exists_empty_segment_iff :
    (∃ s ∈ d.segments r, s.text = []) ↔ ∃ e k, r = ⟨.within e k, .within e k⟩ := by
  by_cases one : InOneEdit r
  · obtain ⟨e, lo, hi, rfl⟩ := one
    obtain ⟨_, second, order⟩ := valid
    have ordered : lo ≤ hi := by simpa [Anchor.le_iff_not_lt] using order
    have bound := (hasPosition_within.1 second).2
    have size := e.text.length_slice lo hi
    have single : d.segments ⟨.within e lo, .within e hi⟩ = [ofEdit e lo hi] := by
      simp [segments, ofRange]
    rw [single]
    constructor
    · rintro ⟨s, member, empty⟩
      rw [List.mem_singleton.1 member] at empty
      have none : (e.text.slice lo hi).length = 0 := congrArg List.length empty
      exact ⟨e, lo, by rw [show hi = lo by omega]⟩
    · rintro ⟨f, k, same⟩
      simp only [Range.mk.injEq, Position.within.injEq] at same
      obtain ⟨⟨rfl, rfl⟩, _, rfl⟩ := same
      exact ⟨_, List.mem_singleton_self _, e.text.slice_of_le (Nat.le_refl _)⟩
  · rw [segments_of_not_inOneEdit one]
    constructor
    · rintro ⟨s, member, empty⟩
      have filled := (List.mem_filter.1 member).2
      simp [empty] at filled
    · rintro ⟨e, k, same⟩
      exact absurd ⟨e, k, k, same⟩ one

end Normal

/-- A walk agrees with the edited text step by step. -/
theorem walk_reads_rendered {base : Text} {config : Config}
    (reached : Reachable base config d) {r : Range} (valid : d.HasRange r) :
    0 ≤ d.offset r.start ∧
      ((walk (d.segments r) .forward).length : Int) = d.offset r.stop - d.offset r.start ∧
      (∀ (n : Nat) v, (walk (d.segments r) .forward)[n]? = some v →
        d.rendered[(d.offset r.start + n).toNat]? = some v.char ∧
          v.segment.buildPosition v.index = .ok v.position ∧ d.HasPosition v.position ∧
          d.offset v.position = d.offset r.start + n ∧
          r.start.anchor ≤ v.position.anchor ∧ v.position.anchor < r.stop.anchor) ∧
      walk (d.segments r) .backward = (walk (d.segments r) .forward).reverse ∧
      ((∃ s ∈ d.segments r, s.text = []) ↔ ∃ e k, r = ⟨.within e k, .within e k⟩) := by
  have normal := reached.normal
  have steps : (walk (d.segments r) .forward).length = (cellsOf (d.segments r)).length := by
    rw [← walk_forward_cells, List.length_map]
  have ends := offset_stop_eq normal valid
  refine ⟨offset_nonneg normal valid.1, by omega, fun n v found => ?_, walk_backward _,
    exists_empty_segment_iff valid⟩
  obtain ⟨member, read⟩ := cell_of_visit normal valid found
  have place : d.offset v.position = _ := offset_of_getElem? normal read
  have present : d.HasPosition v.position :=
    hasPosition_of_mem_cells normal (List.mem_of_getElem? read)
  have start := length_front normal valid.1
  have index : (d.offset r.start + n).toNat = (d.front r.start).length + n := by omega
  refine ⟨?_, buildPosition_eq_ok present, present, by omega,
    between_of_mem_cellsOf normal valid member⟩
  rw [index, getElem?_rendered normal, read]
  rfl

theorem walk_reads_rendered_joined :
    let e : Edit := ⟨1, 2, ['\n', '\t'], by decide, by decide⟩
    let d := (ofBase ['a', ' ', 'b'] .standard).after
      [⟨⟨some (.base 1), some (.base 2)⟩, ['\n', '\t']⟩]
    d.HasRange ⟨.within e 1, .base 3⟩ ∧ d.offset (.within e 1) = 2 ∧ d.offset (.base 3) = 4 ∧
      (walk (d.segments ⟨.within e 1, .base 3⟩) .forward).length = d.offset (.base 3) -
        d.offset (.within e 1) := by
  intro e d
  have valid : d.HasRange ⟨.within e 1, .base 3⟩ := by decide +kernel
  exact ⟨valid, by decide +kernel, by decide +kernel,
    (walk_reads_rendered (Reachable.start.after _) valid).2.1⟩

/-- A range from a place in an edit to the same place has one segment, and it is empty. -/
theorem not_all_segments_filled :
    ¬ ∀ base config d, Reachable base config d → ∀ r, d.HasRange r →
      ∀ s ∈ d.segments r, s.text ≠ [] := by
  intro filled
  let e : Edit := ⟨1, 1, [' '], by decide, by decide⟩
  let d := (ofBase ['a', 'b'] .standard).after [⟨⟨some (.base 1), some (.base 1)⟩, [' ']⟩]
  have valid : d.HasRange ⟨.within e 0, .within e 0⟩ := by decide +kernel
  have single : d.segments ⟨.within e 0, .within e 0⟩ = [⟨[], 0, some e⟩] := by decide +kernel
  refine filled _ _ d (Reachable.start.after _) _ valid ⟨[], 0, some e⟩ ?_ rfl
  rw [single]
  exact List.mem_singleton_self _

end Spacing.Draft
