import Spacing.Proofs.Resolution
import Spacing.Proofs.Traversal

namespace Spacing

open Segment

def Direction.arrange {α : Type} (items : List α) : Direction → List α
  | .forward => items
  | .backward => items.reverse

theorem Direction.mem_arrange {α : Type} {items : List α} {direction : Direction} {a : α} :
    a ∈ direction.arrange items ↔ a ∈ items := by
  cases direction with
  | forward => exact Iff.rfl
  | backward => exact List.mem_reverse

theorem Segment.walk_cells (segments : List Segment) (direction : Direction) :
    (walk segments direction).map Visit.cell = direction.arrange (cellsOf segments) := by
  cases direction with
  | forward => exact walk_forward_cells segments
  | backward =>
    rw [walk_backward, List.map_reverse, walk_forward_cells]
    rfl

def Cell.hit (c : Cell) : Hit := ⟨c.position, Mark.of c.char⟩

namespace Draft

variable {d : Draft}

theorem valid?_of_hasRange {r : Range} (valid : d.HasRange r) : d.valid? r = .ok (some r) := by
  rw [valid?, resolve_eq_ok.2 ⟨rfl, valid⟩]

theorem valid?_of_meetsUntold {s : Selection} (untold : d.MeetsUntold s) :
    d.valid? s = .error .unwritable := by
  rw [valid?, resolve_of_unresolved (unresolved_unwritable_iff.2 untold)]

/-- A range that is not valid is no failure, as long as what is wrong with it could be told. -/
theorem valid?_of_not_hasRange {r : Range} (invalid : ¬ d.HasRange r) (told : ¬ d.MeetsUntold r) :
    d.valid? r = .ok none := by
  rcases unresolved_or_hasRange (d := d) r with ⟨failure, unresolved⟩ | ⟨s, same, valid⟩
  · rw [valid?, resolve_of_unresolved unresolved]
    rcases unresolved.cases_failure with ⟨reason, rfl⟩ | rfl | rfl
    · rfl
    · have missing := unresolved_missingEnd_iff.1 unresolved
      simp [MeetsMissing, Range.toSelection] at missing
    · exact absurd (unresolved_unwritable_iff.1 unresolved) told
  · rw [Range.toSelection_inj.1 same] at invalid
    exact absurd valid invalid

theorem lineBreaks_of_hasRange {r : Range} (valid : d.HasRange r) :
    d.lineBreaks r = .ok ((cellsOf (d.segments r)).countP fun c => isLineBreak c.char) := by
  have counted : Segment.count (d.segments r) isLineBreak =
      (cellsOf (d.segments r)).countP fun c => isLineBreak c.char := by
    rw [count_eq_countP, ← map_char_cellsOf, List.countP_map]
    rfl
  rw [lineBreaks, valid?_of_hasRange valid, ← counted]
  rfl

def tabWidth (d : Draft) : Option Int → Except TabWidth.Fault TabWidth
  | none => .ok d.config.tabWidth
  | some columns => TabWidth.of columns

theorem exists_tabWidth {asked : Option Int} (positive : ∀ w ∈ asked, 1 ≤ w) :
    ∃ width, d.tabWidth asked = .ok width := by
  cases asked with
  | none => exact ⟨d.config.tabWidth, rfl⟩
  | some w =>
    have ample : 0 < w := positive w rfl
    exact ⟨_, dif_pos ample⟩

theorem blankColumns_of_tabWidth {asked : Option Int} {width : TabWidth}
    (chosen : d.tabWidth asked = .ok width) (s : Selection) :
    d.blankColumns s asked =
      match d.valid? s with
      | .error failure => .error failure
      | .ok none => .ok 0
      | .ok (some r) => .ok (Segment.blankColumns (d.segments r) width) := by
  cases asked with
  | none =>
    obtain rfl : d.config.tabWidth = width := Except.ok.inj chosen
    unfold blankColumns
    rcases d.valid? s with _ | _ | _ <;> rfl
  | some w =>
    have chosen : TabWidth.of w = .ok width := chosen
    simp only [blankColumns, chosen]
    rcases d.valid? s with _ | _ | _ <;> rfl

theorem blankColumns_of_hasRange {r : Range} (valid : d.HasRange r) {asked : Option Int}
    {width : TabWidth} (chosen : d.tabWidth asked = .ok width) :
    d.blankColumns r asked =
      .ok (((cellsOf (d.segments r)).map Cell.char).foldl (Ruler.advance width) ⟨0, 0⟩).blank := by
  simp only [blankColumns_of_tabWidth chosen, valid?_of_hasRange valid, Segment.blankColumns,
    fold_eq_foldl, map_char_cellsOf]

theorem search_of_hasRange (normal : d.IsNormal) {r : Range} (valid : d.HasRange r)
    (target : Target) (direction : Direction) :
    d.search r target direction =
      .ok (((direction.arrange (cellsOf (d.segments r))).find? fun c =>
        target.accepts c.char).map Cell.hit) := by
  have stops : ((direction.arrange (cellsOf (d.segments r))).find? fun c =>
      target.accepts c.char) = ((walk (d.segments r) direction).find? fun v =>
        target.accepts v.char).map Visit.cell := by
    rw [← walk_cells, List.find?_map]
    rfl
  rw [stops]
  cases found : (walk (d.segments r) direction).find? fun v => target.accepts v.char with
  | none =>
    simp only [search, valid?_of_hasRange valid, bind, Except.bind, found]
    rfl
  | some v =>
    have walked : v.cell ∈ cellsOf (d.segments r) := by
      rw [← @Direction.mem_arrange _ _ direction, ← walk_cells]
      exact List.mem_map_of_mem (List.mem_of_find?_eq_some found)
    have member : v.cell ∈ d.cells := ((mem_cellsOf_segments_iff normal valid).1 walked).1
    have present : d.HasPosition v.position := hasPosition_of_mem_cells normal member
    simp only [search, valid?_of_hasRange valid, bind, Except.bind, found,
      buildPosition_eq_ok present]
    rfl

theorem search_of_meetsUntold {s : Selection} (untold : d.MeetsUntold s) (target : Target)
    (direction : Direction) : d.search s target direction = .error .unwritable := by
  rw [search, valid?_of_meetsUntold untold]
  rfl

theorem search_of_not_hasRange {r : Range} (invalid : ¬ d.HasRange r) (told : ¬ d.MeetsUntold r)
    (target : Target) (direction : Direction) : d.search r target direction = .ok none := by
  rw [search, valid?_of_not_hasRange invalid told]
  rfl

end Draft
end Spacing
