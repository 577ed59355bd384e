import Spacing.Proofs.Range

namespace Spacing

open Segment

variable {base : Text}

theorem Rendering.splice_append {done : Text} {cursor : Nat} {shrunk : Int} {e : Edit}
    (size : (done.length : Int) = cursor - shrunk) (ahead : cursor ≤ e.start) :
    (⟨done ++ base.drop cursor, shrunk⟩ : Rendering).splice e =
      ⟨(done ++ base.slice cursor e.start ++ e.text) ++ base.drop e.stop,
        shrunk + e.shrinkage⟩ := by
  have order := e.start_le_stop
  have low : (e.start - shrunk : Int).toNat = done.length + (e.start - cursor) := by omega
  have high : (e.stop - shrunk : Int).toNat = done.length + (e.stop - cursor) := by omega
  have behind : cursor + (e.stop - cursor) = e.stop := by omega
  simp only [splice, low, high, List.take_length_add_append, List.drop_length_add_append,
    List.drop_drop, behind, Text.slice]

theorem foldl_splice {es : List Edit} {done : Text} {cursor : Nat} {shrunk : Int}
    (placed : Placed cursor base.length es) (size : (done.length : Int) = cursor - shrunk) :
    es.foldl Rendering.splice ⟨done ++ base.drop cursor, shrunk⟩ =
      ⟨done ++ (stretch base cursor base.length es).map Cell.char,
        shrunk + Draft.shrunkBy es⟩ := by
  -- What carries over to the next edit is `size`: the text behind the cursor is out by `shrunk`.
  induction es generalizing done cursor shrunk with
  | nil =>
    simp [stretch_nil, ofBase, Text.slice_to_end, Draft.shrunkBy]
  | cons e rest ih =>
    have order := e.start_le_stop
    have bound := placed.2.le
    have grown : ((done ++ base.slice cursor e.start ++ e.text).length : Int) =
        e.stop - (shrunk + e.shrinkage) := by
      have low := placed.1
      simp only [List.length_append, Text.length_slice, Edit.shrinkage]
      omega
    rw [List.foldl_cons, Rendering.splice_append size placed.1, ih placed.2 grown]
    simp [stretch_cons, ofBase, ofEdit, Text.slice_self, Draft.shrunkBy, Int.add_assoc]

namespace Draft

variable {d : Draft} (normal : d.IsNormal)
include normal

theorem rendered_eq : d.rendered = d.cells.map Cell.char := by
  have spliced := @foldl_splice d.base _ [] 0 0 normal.placed rfl
  exact congrArg Rendering.text spliced

theorem getElem?_rendered (i : Nat) : d.rendered[i]? = d.cells[i]?.map Cell.char := by
  rw [rendered_eq normal, List.getElem?_map]

theorem getElem?_rendered_of_mem_cells {c : Cell} (member : c ∈ d.cells) :
    0 ≤ d.offset c.position ∧ d.rendered[(d.offset c.position).toNat]? = some c.char := by
  obtain ⟨i, found⟩ := List.getElem?_of_mem member
  rw [offset_of_getElem? normal found, Int.toNat_natCast, getElem?_rendered normal, found]
  exact ⟨Int.natCast_nonneg i, rfl⟩

variable {p : Position} (valid : d.HasPosition p)
include valid

theorem rendered_cut :
    d.rendered.take (d.offset p).toNat = (d.front p).map Cell.char ∧
      d.rendered.drop (d.offset p).toNat = (d.back p).map Cell.char := by
  have size : (d.offset p).toNat = ((d.front p).map Cell.char).length := by
    rw [← length_front normal valid, Int.toNat_natCast, List.length_map]
  rw [size, rendered_eq normal, cells_eq_front_append_back normal valid, List.map_append]
  exact ⟨List.take_left, List.drop_left⟩

theorem offset_nonneg : 0 ≤ d.offset p := by
  rw [← length_front normal valid]
  exact Int.natCast_nonneg _

theorem offset_le_length : d.offset p ≤ d.rendered.length := by
  rw [← length_front normal valid, rendered_eq normal, cells_eq_front_append_back normal valid,
    List.length_map, List.length_append]
  omega

omit valid in
/-- The segments of a range spell what stands between its ends. -/
theorem slice_rendered {r : Range} (valid : d.HasRange r) :
    d.rendered.slice (d.offset r.start).toNat (d.offset r.stop).toNat =
      textOf (d.segments r) := by
  have ends := offset_stop_eq normal valid
  have start := offset_nonneg normal valid.1
  have size : (d.offset r.stop).toNat - (d.offset r.start).toNat =
      ((cellsOf (d.segments r)).map Cell.char).length := by
    rw [List.length_map]
    omega
  rw [Text.slice, (rendered_cut normal valid.1).2, back_start_eq normal valid, List.map_append,
    size, List.take_left, map_char_cellsOf]

end Draft
end Spacing
