import Spacing.Proofs.Effect
import Spacing.Proofs.Range

/-! The normal form of the pending edits. No check of a submission mentions it, but a submission
keeps it: the new edit takes in all edits it would touch, and a base character it replaces is
replaced already or lies in the range, where only blank characters may be. -/
namespace Spacing.Draft

open Segment

variable {d : Draft}

section Stored

variable (normal : d.IsNormal) {r : Range} {text : Text} {c : Change} (valid : d.HasRange r)
  (suits : d.Suits r text c)
include normal valid suits

theorem isBlank_of_replaced (covered : Text.IsBlank (textOf (d.segments r))) {o : Nat} {char : Char}
    (low : c.edit.start ≤ o) (high : o < c.edit.stop) (found : d.base[o]? = some char) :
    isBlank char = true := by
  by_cases free : Survives d.pending.toList o
  · -- A cell in front of the range or behind it is outside the margins of the new edit.
    have member : ⟨.base o, char⟩ ∈ d.cells :=
      (mem_cells normal).2 (Or.inl ⟨o, free, found, rfl⟩)
    rw [cells_eq_range normal valid, List.append_assoc, List.mem_append, List.mem_append] at member
    rcases member with early | inside | late
    · have before := before_of_mem_front normal valid.1 early
      have before := lt_lead_of_survives normal valid.1 free before
      rw [← suits.start_eq] at before
      omega
    · refine covered char ?_
      rw [← map_char_cellsOf]
      exact List.mem_map_of_mem (f := Cell.char) inside
    · have after := trail_le_of_survives valid.2.1 free (le_of_mem_back normal valid.2.1 late)
      rw [← suits.stop_eq] at after
      omega
  · simp only [Survives, not_forall, not_not] at free
    obtain ⟨e, member, above, below⟩ := free
    exact normal.blank e member char (Text.mem_slice.2 ⟨o, above, below, found⟩)

theorem normal_changed (covered : Text.IsBlank (textOf (d.segments r))) :
    Normal d.base (d.changed c.edit) where
  apart := apart_changed normal c.edit
  inBase e member := by
    rcases mem_changed.1 member with ⟨kept, _⟩ | ⟨rfl, _⟩
    · exact normal.inBase e kept
    · rw [suits.stop_eq]
      exact trail_le normal valid.2.1
  solid e member := by
    rcases mem_changed.1 member with ⟨kept, _⟩ | ⟨rfl, solid⟩
    · exact normal.solid e kept
    · exact solid
  blank e member := by
    rcases mem_changed.1 member with ⟨kept, _⟩ | ⟨rfl, _⟩
    · exact normal.blank e kept
    · intro char inside
      obtain ⟨o, low, high, found⟩ := Text.mem_slice.1 inside
      exact isBlank_of_replaced normal valid suits covered low high found

end Stored

theorem normal_ofBase (base : Text) (config : Config) : (ofBase base config).IsNormal where
  apart := List.Pairwise.nil
  inBase _ member := absurd member List.not_mem_nil
  solid _ member := absurd member List.not_mem_nil
  blank _ member := absurd member List.not_mem_nil

theorem normal_submit (normal : d.IsNormal) (s : Selection) (text : Text) :
    (d.submit s text).draft.IsNormal := by
  cases submit_effect normal s text with
  | refused failure result same => rwa [same]
  | idle r asked valid empty nothing result same => rwa [same]
  | stored r c asked valid covered suits result pending =>
    rw [IsNormal, pending, submit_base]
    exact normal_changed normal valid suits covered

theorem Reachable.normal {base : Text} {config : Config} (reached : Reachable base config d) :
    d.IsNormal := by
  induction reached with
  | start => exact normal_ofBase base config
  | step _ s text ih => exact normal_submit ih s text

/-- Whatever has been submitted, the pending edits are in normal form. -/
theorem pending_in_normal_form {base : Text} {config : Config} (reached : Reachable base config d) :
    d.pending.toList.Pairwise (fun a b => a.start < b.start) ∧
      d.pending.toList.IsChain (fun left right => left.stop < right.start) ∧
      ∀ e ∈ d.pending.toList, e.start ≤ e.stop ∧ e.stop ≤ base.length ∧ e.text.IsBlank ∧
        ¬ (e.start = e.stop ∧ e.text = []) ∧
        ∀ o, e.start ≤ o → o < e.stop → ∃ c, base[o]? = some c ∧ isBlank c = true := by
  have normal := reached.normal
  have origin := reached.base_eq
  refine ⟨ascending_of_apart normal.apart, normal.apart.isChain, fun e member => ?_⟩
  have bound := normal.inBase e member
  rw [origin] at bound
  refine ⟨e.start_le_stop, bound, e.blank, fun void => ?_, fun o low high => ?_⟩
  · have solid := normal.solid e member
    simp [Edit.isVoid, Edit.isInsertion, void] at solid
  · have found : base[o]? = some base[o] := List.getElem?_eq_getElem (by omega)
    exact ⟨base[o], found, normal.blank e member _
      (Text.mem_slice.2 ⟨o, low, high, by rw [origin]; exact found⟩)⟩

theorem pending_in_normal_form_joined :
    let d := (ofBase ['a', ' ', ' ', 'b'] .standard).after
      [⟨⟨some (.base 1), some (.base 2)⟩, ['\n']⟩, ⟨⟨some (.base 2), some (.base 3)⟩, ['\t']⟩]
    d.pending.toList = [⟨1, 3, ['\n', '\t'], by decide, by decide⟩] ∧
      d.pending.toList.IsChain fun left right => left.stop < right.start :=
  ⟨by decide +kernel, (pending_in_normal_form (Reachable.start.after _)).2.1⟩

end Spacing.Draft
