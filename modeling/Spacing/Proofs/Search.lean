import Mathlib.Order.Bounds.Defs
import Spacing.Proofs.Addressing
import Spacing.Proofs.Reading

namespace Spacing

open Segment

/-- The characters looked for: line breaks unless only the others are wanted, and what is not blank
unless only line breaks are. -/
def Target.Seeks (target : Target) (c : Char) : Prop :=
  target ≠ .nonBlank ∧ c = '\n' ∨ target ≠ .lineBreak ∧ isBlank c = false

theorem Target.accepts_iff_seeks {target : Target} {c : Char} :
    target.accepts c = true ↔ target.Seeks c := by
  cases target with
  | nonBlank => simp [accepts, Seeks]
  | lineBreak => simp [accepts, Seeks, isLineBreak]
  | either => simp [accepts, Seeks, isLineBreak]

namespace Direction

/-- The number that comes first when the items are gone through in the direction. -/
def IsFirst (items : Set Nat) (n : Nat) : Direction → Prop
  | .forward => IsLeast items n
  | .backward => IsGreatest items n

def NoLater {α : Type} [LE α] (a b : α) : Direction → Prop
  | .forward => a ≤ b
  | .backward => b ≤ a

section IsFirst

variable {direction : Direction} {items : Set Nat} {n m : Nat}

theorem IsFirst.mem (first : direction.IsFirst items n) : n ∈ items := by
  cases direction with
  | forward => exact first.1
  | backward => exact first.1

theorem IsFirst.unique (first : direction.IsFirst items n) (second : direction.IsFirst items m) :
    n = m := by
  cases direction with
  | forward => exact Nat.le_antisymm (first.2 second.1) (second.2 first.1)
  | backward => exact Nat.le_antisymm (second.2 first.1) (first.2 second.1)

theorem IsFirst.of_noLater (member : n ∈ items) (first : ∀ m ∈ items, direction.NoLater n m) :
    direction.IsFirst items n := by
  cases direction with
  | forward => exact ⟨member, first⟩
  | backward => exact ⟨member, first⟩

end IsFirst

theorem arrange_ordered {cells : List Cell} (ascending : cells.Pairwise Cell.Before)
    (direction : Direction) : (direction.arrange cells).Pairwise fun a b =>
      direction.NoLater a.position.anchor b.position.anchor := by
  cases direction with
  | forward => exact ascending.imp fun before => Anchor.le_of_lt before
  | backward => exact (List.pairwise_reverse.2 ascending).imp fun before => Anchor.le_of_lt before

theorem noLater_of_find? {cells : List Cell} (ascending : cells.Pairwise Cell.Before)
    {direction : Direction} {wanted : Cell → Bool} {c : Cell}
    (found : (direction.arrange cells).find? wanted = some c) {b : Cell} (member : b ∈ cells)
    (holds : wanted b = true) : direction.NoLater c.position.anchor b.position.anchor := by
  obtain ⟨_, front, back, split, skipped⟩ := List.find?_eq_some_iff_append.1 found
  have place : b ∈ direction.arrange cells := mem_arrange.2 member
  have ordered := arrange_ordered ascending direction
  rw [split] at place ordered
  rcases List.mem_append.1 place with early | late
  · have missed := skipped b early
    simp [holds] at missed
  · rcases List.mem_cons.1 late with rfl | behind
    · cases direction with
      | forward => exact Anchor.lt_irrefl _
      | backward => exact Anchor.lt_irrefl _
    · have tail := (List.pairwise_append.1 ordered).2.1
      exact (List.pairwise_cons.1 tail).1 b behind

end Direction

namespace Draft

variable {d : Draft}

inductive SearchEnd (d : Draft) (r : Range) (target : Target) (direction : Direction) : Prop
  | missed (result : d.search r target direction = .ok none)
      (refused : ∀ b ∈ cellsOf (d.segments r), target.accepts b.char = false)
  | stopped (c : Cell) (result : d.search r target direction = .ok (some c.hit))
      (member : c ∈ cellsOf (d.segments r)) (accepted : target.accepts c.char = true)
      (first : ∀ b ∈ cellsOf (d.segments r), target.accepts b.char = true →
        direction.NoLater c.position.anchor b.position.anchor)

/-- The edit writes the character of the edited text at the index. -/
def Writes (d : Draft) (e : Edit) (n : Nat) : Prop :=
  e ∈ d.pending.toList ∧ d.offset (.within e 0) ≤ n ∧ n < d.offset (.within e e.text.length)

theorem offset_within_eq (e : Edit) (k : Nat) :
    d.offset (.within e k) = d.offset (.within e 0) + k := by
  simp [offset]

section Normal

variable (normal : d.IsNormal)
include normal

theorem search_ends {r : Range} (valid : d.HasRange r) (target : Target) (direction : Direction) :
    d.SearchEnd r target direction := by
  have result := search_of_hasRange normal valid target direction
  cases found : (direction.arrange (cellsOf (d.segments r))).find? fun c =>
      target.accepts c.char with
  | none =>
    rw [found] at result
    refine .missed result fun b member => ?_
    have refused := List.find?_eq_none.1 found b (Direction.mem_arrange.2 member)
    simpa using refused
  | some c =>
    rw [found] at result
    have ascending := cellsOf_segments_ascending normal valid
    refine .stopped c result (Direction.mem_arrange.1 (List.mem_of_find?_eq_some found)) ?_ ?_
    · simpa using List.find?_some found
    · intro b member holds
      exact Direction.noLater_of_find? ascending found member holds

theorem mem_cellsOf_iff_getElem? {r : Range} (valid : d.HasRange r) {c : Cell} :
    c ∈ cellsOf (d.segments r) ↔
      ∃ n : Nat, d.offset r.start ≤ n ∧ n < d.offset r.stop ∧ d.cells[n]? = some c := by
  have start := length_front normal valid.1
  have ends := offset_stop_eq normal valid
  constructor
  · intro member
    obtain ⟨k, found⟩ := List.getElem?_of_mem member
    have bound := (List.getElem?_eq_some_iff.1 found).1
    refine ⟨(d.front r.start).length + k, by omega, by omega, ?_⟩
    rw [getElem?_cells_of_range normal valid bound, found]
  · rintro ⟨n, low, high, found⟩
    obtain ⟨k, rfl⟩ : ∃ k, n = (d.front r.start).length + k :=
      ⟨n - (d.front r.start).length, by omega⟩
    rw [getElem?_cells_of_range normal valid (by omega)] at found
    exact List.mem_of_getElem? found

section Cell

variable {n : Nat} {c : Cell} (found : d.cells[n]? = some c)
include found

theorem noLater_of_getElem? {m : Nat} {b : Cell} (there : d.cells[m]? = some b)
    {direction : Direction} (first : direction.NoLater c.position.anchor b.position.anchor) :
    direction.NoLater n m := by
  have here := hasPosition_of_mem_cells normal (List.mem_of_getElem? found)
  have other := hasPosition_of_mem_cells normal (List.mem_of_getElem? there)
  have place := offset_of_getElem? normal found
  have place' := offset_of_getElem? normal there
  cases direction with
  | forward =>
    have order := offset_le_of_anchor_le normal here other first
    change n ≤ m
    omega
  | backward =>
    have order := offset_le_of_anchor_le normal other here first
    change m ≤ n
    omega

theorem within_iff_writes (e : Edit) :
    (∃ k < e.text.length, c.position = .within e k) ↔ d.Writes e n := by
  have place := offset_of_getElem? normal found
  constructor
  · rintro ⟨k, inside, named⟩
    have present := hasPosition_of_mem_cells normal (List.mem_of_getElem? found)
    rw [named] at present place
    rw [offset_within_eq] at place
    refine ⟨(hasPosition_within.1 present).1, by omega, ?_⟩
    rw [offset_within_eq]
    omega
  · rintro ⟨held, low, high⟩
    rw [offset_within_eq] at high
    obtain ⟨k, index⟩ := Int.eq_ofNat_of_zero_le (Int.sub_nonneg_of_le low)
    have inside : k < e.text.length := by omega
    have member : ⟨.within e k, e.text[k]⟩ ∈ d.cells :=
      (mem_cells normal).2 (Or.inr ⟨e, held, k, List.getElem?_eq_getElem inside, rfl⟩)
    obtain ⟨m, there⟩ := List.getElem?_of_mem member
    have same : d.offset (.within e k) = m := offset_of_getElem? normal there
    rw [offset_within_eq] at same
    obtain rfl : m = n := by omega
    have equal := Option.some.inj (found.symm.trans there)
    exact ⟨k, inside, by rw [equal]⟩

theorem base_iff_not_writes : (∃ o, c.position = .base o) ↔ ∀ e, ¬ d.Writes e n := by
  constructor
  · rintro ⟨o, named⟩ e writes
    obtain ⟨k, _, other⟩ := (within_iff_writes normal found e).2 writes
    simp [named] at other
  · intro unwritten
    rcases (mem_cells normal).1 (List.mem_of_getElem? found) with ⟨o, _, _, named⟩ |
      ⟨e, _, k, char, named⟩
    · exact ⟨o, named⟩
    · have inside := (List.getElem?_eq_some_iff.1 char).1
      exact absurd ((within_iff_writes normal found e).1 ⟨k, inside, named⟩) (unwritten e)

end Cell

end Normal

def soughtIn (text : Text) (start stop : Nat) (target : Target) : Set Nat :=
  {n | start ≤ n ∧ n < stop ∧ ∃ c, text[n]? = some c ∧ target.Seeks c}

/-- The hit names the character at the index, which lies in the range. -/
structure Names (d : Draft) (r : Range) (h : Hit) (n : Nat) : Prop where
  present : d.HasPosition h.position
  low : r.start.anchor ≤ h.position.anchor
  high : h.position.anchor < r.stop.anchor
  place : d.offset h.position = n
  within_iff : ∀ e, (∃ k < e.text.length, h.position = .within e k) ↔ d.Writes e n
  base_iff : (∃ o, h.position = .base o) ↔ ∀ e, ¬ d.Writes e n
  mark_iff : h.mark = .lineBreak ↔ d.rendered[n]? = some '\n'

section Range

variable (normal : d.IsNormal) {r : Range} (valid : d.HasRange r)
include normal valid

theorem names_hit {c : Cell} (member : c ∈ cellsOf (d.segments r)) {n : Nat}
    (found : d.cells[n]? = some c) : d.Names r c.hit n where
  present := hasPosition_of_mem_cells normal (List.mem_of_getElem? found)
  low := (between_of_mem_cellsOf normal valid member).1
  high := (between_of_mem_cellsOf normal valid member).2
  place := offset_of_getElem? normal found
  within_iff := within_iff_writes normal found
  base_iff := base_iff_not_writes normal found
  mark_iff := by
    rw [getElem?_rendered normal, found]
    simp [Cell.hit, Mark.of, isLineBreak]

variable {i j : Nat} (start : d.offset r.start = i) (stop : d.offset r.stop = j)
include start stop

theorem none_sought_iff (target : Target) :
    (∀ c ∈ d.rendered.slice i j, ¬ target.Seeks c) ↔
      ∀ b ∈ cellsOf (d.segments r), target.accepts b.char = false := by
  have spelled := slice_rendered normal valid
  rw [start, stop, Int.toNat_natCast, Int.toNat_natCast, ← map_char_cellsOf] at spelled
  rw [spelled, List.forall_mem_map]
  simp only [← Target.accepts_iff_seeks, Bool.not_eq_true]

theorem isFirst_soughtIn {target : Target} {direction : Direction} {c : Cell} {n : Nat}
    (low : i ≤ n) (high : n < j) (found : d.cells[n]? = some c)
    (accepted : target.accepts c.char = true)
    (first : ∀ b ∈ cellsOf (d.segments r), target.accepts b.char = true →
      direction.NoLater c.position.anchor b.position.anchor) :
    direction.IsFirst (soughtIn d.rendered i j target) n := by
  apply Direction.IsFirst.of_noLater
  · refine ⟨low, high, c.char, ?_, Target.accepts_iff_seeks.1 accepted⟩
    rw [getElem?_rendered normal, found]
    rfl
  · rintro m ⟨above, below, char, read, holds⟩
    rw [getElem?_rendered normal, Option.map_eq_some_iff] at read
    obtain ⟨b, there, rfl⟩ := read
    have inside : b ∈ cellsOf (d.segments r) :=
      (mem_cellsOf_iff_getElem? normal valid).2 ⟨m, by omega, by omega, there⟩
    exact noLater_of_getElem? normal found there
      (first b inside (Target.accepts_iff_seeks.2 holds))

end Range

end Draft
end Spacing
