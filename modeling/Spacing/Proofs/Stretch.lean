import Spacing.Anchor
import Spacing.Draft.Offset
import Spacing.Proofs.Apart
import Spacing.Segment.Walk

/-! The edited text cell by cell. A cell is a character with the position that names it. Base slices
and edits in turn make a stretch of cells, which can be cut at an edit or in a gap between edits.
Its length is that of the base it covers less the shrinkages of its edits, and its cells are the
base characters no edit replaces and the characters of the edits, in the order of their anchors. -/
namespace Spacing

structure Cell where
  position : Position
  char : Char
deriving DecidableEq

def Visit.cell (v : Visit) : Cell := ⟨v.position, v.char⟩

theorem Text.getElem?_slice (text : Text) (start stop i : Nat) :
    (text.slice start stop)[i]? = if i < stop - start then text[start + i]? else none := by
  simp only [slice, List.getElem?_take, List.getElem?_drop]

theorem Text.exists_getElem?_slice {text : Text} {start stop : Nat} {c : Char} {p : Nat → Prop} :
    (∃ i, (text.slice start stop)[i]? = some c ∧ p (start + i)) ↔
      ∃ i, start ≤ i ∧ i < stop ∧ text[i]? = some c ∧ p i := by
  simp only [getElem?_slice]
  constructor
  · rintro ⟨i, found, holds⟩
    by_cases inside : i < stop - start
    · exact ⟨start + i, by omega, by omega, by simpa [inside] using found, holds⟩
    · simp [inside] at found
  · rintro ⟨i, low, high, found, holds⟩
    have index : start + (i - start) = i := by omega
    refine ⟨i - start, ?_, by rw [index]; exact holds⟩
    rw [if_pos (by omega), index]
    exact found

theorem Text.mem_slice {text : Text} {start stop : Nat} {c : Char} :
    c ∈ text.slice start stop ↔ ∃ i, start ≤ i ∧ i < stop ∧ text[i]? = some c := by
  rw [List.mem_iff_getElem?]
  simpa only [and_true] using @exists_getElem?_slice text start stop c fun _ => True

theorem Text.slice_to_end (text : Text) (start : Nat) :
    text.slice start text.length = text.drop start := List.take_of_length_le (by simp)

theorem Text.slice_append (text : Text) {x y z : Nat} (first : x ≤ y) (second : y ≤ z) :
    text.slice x y ++ text.slice y z = text.slice x z := by
  have sizes : z - x = y - x + (z - y) := by omega
  have place : x + (y - x) = y := by omega
  rw [slice, slice, slice, sizes, List.take_add, List.drop_drop, place]

namespace Segment

def cells (s : Segment) : List Cell := s.visits.map Visit.cell

def cellsOf (segments : List Segment) : List Cell := segments.flatMap cells

theorem getElem?_cells (s : Segment) (i : Nat) :
    s.cells[i]? = s.text[i]?.map fun c => ⟨s.position i, c⟩ := by
  cases found : s.text[i]? <;>
    simp [cells, visits, List.getElem?_zipIdx, found, Visit.cell, Visit.position]

@[simp] theorem length_cells (s : Segment) : s.cells.length = s.text.length := by
  simp [cells, visits]

@[simp] theorem map_char_cells (s : Segment) : s.cells.map Cell.char = s.text := by
  simp [cells, visits, Function.comp_def, Visit.cell]

theorem mem_cells {s : Segment} {c : Cell} :
    c ∈ s.cells ↔ ∃ i, s.text[i]? = some c.char ∧ c.position = s.position i := by
  rw [List.mem_iff_getElem?]
  refine exists_congr fun i => ?_
  rw [getElem?_cells, Option.map_eq_some_iff]
  constructor
  · rintro ⟨char, found, rfl⟩
    exact ⟨found, rfl⟩
  · rintro ⟨found, named⟩
    exact ⟨c.char, found, by rw [← named]⟩

theorem map_char_cellsOf (segments : List Segment) :
    (cellsOf segments).map Cell.char = textOf segments := by
  simp [cellsOf, textOf, List.map_flatMap]

theorem cellsOf_append (first second : List Segment) :
    cellsOf (first ++ second) = cellsOf first ++ cellsOf second := List.flatMap_append

theorem cellsOf_filter (segments : List Segment) :
    cellsOf (segments.filter fun s => !s.text.isEmpty) = cellsOf segments := by
  induction segments with
  | nil => rfl
  | cons s rest ih =>
    rw [List.filter_cons]
    by_cases empty : s.text = []
    · have none : s.cells = [] := List.eq_nil_of_length_eq_zero (by simp [empty])
      simpa [cellsOf, empty, none] using ih
    · simpa [cellsOf, empty] using ih

theorem walk_forward_cells (segments : List Segment) :
    (walk segments .forward).map Visit.cell = cellsOf segments := by
  simp only [walk, cellsOf, List.map_flatMap]
  rfl

theorem cells_slice_append (text : Text) (source : Option Edit) {x y z : Nat} (first : x ≤ y)
    (second : y ≤ z) :
    (⟨text.slice x y, x, source⟩ : Segment).cells ++ (⟨text.slice y z, y, source⟩ : Segment).cells =
      (⟨text.slice x z, x, source⟩ : Segment).cells := by
  refine List.ext_getElem? fun i => ?_
  have size := text.length_slice x y
  rw [List.getElem?_append, length_cells]
  simp only [getElem?_cells, Text.getElem?_slice]
  split
  · rw [if_pos (by omega), if_pos (by omega)]
    rfl
  · by_cases reached : y ≤ text.length
    · have index : y + (i - (text.slice x y).length) = x + i := by omega
      have inside : i - (text.slice x y).length < z - y ↔ i < z - x := by omega
      simp only [index, inside, position]
    · have short : text.length ≤ y + (i - (text.slice x y).length) := by omega
      rw [List.getElem?_eq_none short, List.getElem?_eq_none (by omega : text.length ≤ x + i)]
      simp

end Segment

open Segment

variable {base : Text}

/-- The cells from one base offset to another with the edits between them. -/
def stretch (base : Text) (start stop : Nat) (edits : List Edit) : List Cell :=
  cellsOf (alternate base stop start edits)

theorem stretch_nil (start stop : Nat) :
    stretch base start stop [] = (ofBase base start stop).cells := by
  simp [stretch, alternate, cellsOf]

theorem stretch_self (o : Nat) : stretch base o o [] = [] := by
  rw [stretch_nil]
  exact List.eq_nil_of_length_eq_zero (by simp [ofBase, Text.length_slice])

theorem stretch_cons (start stop : Nat) (e : Edit) (rest : List Edit) :
    stretch base start stop (e :: rest) =
      (ofBase base start e.start).cells ++ (ofEdit e 0 e.text.length).cells ++
        stretch base e.stop stop rest := by
  simp [stretch, alternate, cellsOf]

theorem stretch_append_cons (start stop : Nat) (before : List Edit) (e : Edit)
    (after : List Edit) :
    stretch base start stop (before ++ e :: after) =
      stretch base start e.start before ++ (ofEdit e 0 e.text.length).cells ++
        stretch base e.stop stop after := by
  induction before generalizing start with
  | nil => rw [List.nil_append, stretch_cons, stretch_nil]
  | cons f rest ih => simp only [List.cons_append, stretch_cons, ih, List.append_assoc]

theorem stretch_append {start cut stop : Nat} {before after : List Edit}
    (first : Placed start cut before) (second : Placed cut stop after) :
    stretch base start stop (before ++ after) =
      stretch base start cut before ++ stretch base cut stop after := by
  induction before generalizing start with
  | cons e rest ih => simp only [List.cons_append, stretch_cons, ih first.2, List.append_assoc]
  | nil =>
    rw [List.nil_append, stretch_nil]
    cases after with
    | nil => rw [stretch_nil, stretch_nil]; exact (cells_slice_append base none first second).symm
    | cons e rest =>
      rw [stretch_cons, stretch_cons, ← List.append_assoc, ← List.append_assoc]
      exact congrArg (· ++ _ ++ _) (cells_slice_append base none first second.1).symm

theorem length_stretch {start stop : Nat} {es : List Edit} (placed : Placed start stop es)
    (bound : stop ≤ base.length) :
    ((stretch base start stop es).length : Int) = stop - start - Draft.shrunkBy es := by
  induction es generalizing start with
  | nil =>
    have ordered : start ≤ stop := placed
    simp only [stretch_nil, length_cells, ofBase, Text.length_slice, Draft.shrunkBy]
    omega
  | cons e rest ih =>
    have ordered := placed.2.le
    have size := e.start_le_stop
    have low := placed.1
    have tail := ih placed.2
    simp only [stretch_cons, List.length_append, length_cells, ofBase, ofEdit, Text.length_slice,
      Draft.shrunkBy, Edit.shrinkage]
    omega

theorem mem_cells_slice {text : Text} {source : Option Edit} {start stop : Nat} {c : Cell} :
    c ∈ (⟨text.slice start stop, start, source⟩ : Segment).cells ↔
      ∃ i, start ≤ i ∧ i < stop ∧ text[i]? = some c.char ∧
        c.position = (⟨text, 0, source⟩ : Segment).position i := by
  simpa only [mem_cells, position, Nat.zero_add] using
    @Text.exists_getElem?_slice text start stop c.char fun i =>
      c.position = (⟨text, 0, source⟩ : Segment).position i

theorem mem_cells_ofBase {start stop : Nat} {c : Cell} :
    c ∈ (ofBase base start stop).cells ↔
      ∃ o, start ≤ o ∧ o < stop ∧ base[o]? = some c.char ∧ c.position = .base o := by
  simpa [ofBase, position] using @mem_cells_slice base none start stop c

theorem mem_cells_ofEdit {e : Edit} {start stop : Nat} {c : Cell} :
    c ∈ (ofEdit e start stop).cells ↔
      ∃ k, start ≤ k ∧ k < stop ∧ e.text[k]? = some c.char ∧ c.position = .within e k := by
  simpa [ofEdit, position] using @mem_cells_slice e.text (some e) start stop c

theorem mem_stretch {start stop : Nat} {es : List Edit} (placed : Placed start stop es)
    {c : Cell} :
    c ∈ stretch base start stop es ↔
      (∃ o, start ≤ o ∧ o < stop ∧ Survives es o ∧ base[o]? = some c.char ∧
        c.position = .base o) ∨
      ∃ e ∈ es, ∃ k, e.text[k]? = some c.char ∧ c.position = .within e k := by
  induction es generalizing start with
  | nil => simp [stretch_nil, mem_cells_ofBase, Survives]
  | cons e rest ih =>
    have low := placed.1
    have size := e.start_le_stop
    have high := placed.2.le
    rw [stretch_cons, List.mem_append, List.mem_append, mem_cells_ofBase, mem_cells_ofEdit,
      ih placed.2]
    constructor
    · rintro ((⟨o, above, below, found, named⟩ | ⟨k, _, _, found, named⟩) |
        ⟨o, above, below, free, found, named⟩ | ⟨f, member, k, found, named⟩)
      · refine Or.inl ⟨o, above, by omega, ?_, found, named⟩
        intro f member
        rcases List.mem_cons.1 member with rfl | later
        · omega
        · exact Survives.of_le placed.2 (by omega) f later
      · exact Or.inr ⟨e, by simp, k, found, named⟩
      · refine Or.inl ⟨o, by omega, below, ?_, found, named⟩
        intro f member
        rcases List.mem_cons.1 member with rfl | later
        · omega
        · exact free f later
      · exact Or.inr ⟨f, by simp [member], k, found, named⟩
    · rintro (⟨o, above, below, free, found, named⟩ | ⟨f, member, k, found, named⟩)
      · rcases Nat.lt_or_ge o e.start with early | late
        · exact Or.inl (Or.inl ⟨o, above, early, found, named⟩)
        · have past : e.stop ≤ o := by have spared := free e (by simp); omega
          have rest_free : Survives rest o := fun f later => free f (by simp [later])
          exact Or.inr (Or.inl ⟨o, past, below, rest_free, found, named⟩)
      · rcases List.mem_cons.1 member with rfl | later
        · have inside := (List.getElem?_eq_some_iff.1 found).1
          exact Or.inl (Or.inr ⟨k, Nat.zero_le k, inside, found, named⟩)
        · exact Or.inr (Or.inr ⟨f, later, k, found, named⟩)

def Cell.Before (a b : Cell) : Prop := a.position.anchor < b.position.anchor

theorem Segment.cells_ascending (s : Segment) : s.cells.Pairwise Cell.Before := by
  rw [List.pairwise_iff_getElem]
  intro i j first second less
  have read : ∀ {n} (bound : n < s.cells.length), s.cells[n].position = s.position n := by
    intro n bound
    have found := List.getElem?_eq_getElem bound
    rw [getElem?_cells, Option.map_eq_some_iff] at found
    obtain ⟨char, _, named⟩ := found
    rw [← named]
  simp only [Cell.Before, read, position]
  cases s.source with
  | none => simpa using less
  | some e => simpa using less

/-- Where edits keep apart the cells of a stretch stand in the order of their anchors. -/
theorem stretch_ascending {start stop : Nat} {es : List Edit} (placed : Placed start stop es)
    (apart : es.Pairwise fun a b => a.stop < b.start) :
    (stretch base start stop es).Pairwise Cell.Before := by
  induction es generalizing start with
  | nil => rw [stretch_nil]; exact cells_ascending _
  | cons e rest ih =>
    obtain ⟨later, apart⟩ := List.pairwise_cons.1 apart
    have size := e.start_le_stop
    rw [stretch_cons, List.pairwise_append, List.pairwise_append]
    refine ⟨⟨cells_ascending _, cells_ascending _, fun a before b inside => ?_⟩,
      ih placed.2 apart, fun a first b after => ?_⟩
    · obtain ⟨o, _, below, _, gap⟩ := mem_cells_ofBase.1 before
      obtain ⟨k, _, _, _, inner⟩ := mem_cells_ofEdit.1 inside
      simpa [Cell.Before, gap, inner] using below
    · -- The base position at the edit's start comes after the gap and the edit, before the rest.
      have low : a.position.anchor < (Position.base e.start).anchor := by
        rcases List.mem_append.1 first with before | inside
        · obtain ⟨o, _, below, _, gap⟩ := mem_cells_ofBase.1 before
          simpa [gap] using below
        · obtain ⟨k, _, _, _, inner⟩ := mem_cells_ofEdit.1 inside
          simp [inner]
      refine Anchor.lt_of_lt_of_le low ?_
      rw [Anchor.le_iff_not_lt]
      rcases (mem_stretch placed.2).1 after with ⟨o, above, _, _, _, named⟩ |
        ⟨f, member, k, _, named⟩
      · simp only [named, Position.anchor_base_lt_base]
        omega
      · have gap := later f member
        simp only [named, Position.anchor_within_lt_base]
        omega

end Spacing
