import Spacing.Draft.History
import Spacing.Proofs.Patch
import Spacing.Proofs.Stretch

namespace Spacing

open Segment

theorem Normal.placed {base : Text} {es : List Edit} (normal : Normal base es) :
    Placed 0 base.length es :=
  .of_apart (Nat.zero_le _) normal.apart (fun _ _ => Nat.zero_le _) normal.inBase

namespace Draft

abbrev IsNormal (d : Draft) : Prop := Normal d.base d.pending.toList

def cells (d : Draft) : List Cell := stretch d.base 0 d.base.length d.pending.toList

def front (d : Draft) : Position → List Cell
  | .base o => stretch d.base 0 o (d.pending.toList.filter fun e => e.stop ≤ o)
  | .within e k =>
    stretch d.base 0 e.start (d.pending.toList.filter fun f => f.stop < e.start) ++
      (ofEdit e 0 k).cells

def back (d : Draft) : Position → List Cell
  | .base o => stretch d.base o d.base.length (d.pending.toList.filter fun e => o < e.start)
  | .within e k =>
    (ofEdit e k e.text.length).cells ++
      stretch d.base e.stop d.base.length (d.pending.toList.filter fun f => e.stop < f.start)

variable {d : Draft} (normal : d.IsNormal)
include normal

theorem hasPosition_base {o : Nat} :
    d.HasPosition (.base o) ↔ o ≤ d.base.length ∧ Survives d.pending.toList o := by
  have free : d.pending.replacing? o = none ↔ Survives d.pending.toList o := by
    rw [Patch.replacing?_eq_none_iff normal.apart]
    simp only [Survives, Int.ofNat_le, Int.ofNat_lt]
  by_cases past : d.base.length < o
  · simp [HasPosition, problem?, past, Nat.not_le_of_lt past]
  · simp [HasPosition, problem?, past, free, Nat.le_of_not_lt past]

omit normal in
theorem hasPosition_within {e : Edit} {k : Nat} :
    d.HasPosition (.within e k) ↔ e ∈ d.pending.toList ∧ k ≤ e.text.length := by
  rw [← Patch.contains_iff]
  by_cases held : d.pending.contains e = true
  · simp [HasPosition, problem?, held]
  · simp [HasPosition, problem?, held]

theorem placed_before {o : Nat} : Placed 0 o (d.pending.toList.filter fun e => e.stop ≤ o) :=
  .filter normal.apart (Nat.zero_le o) fun e _ low => ⟨Nat.zero_le _, by simpa using low⟩

theorem placed_below {o : Nat} : Placed 0 o (d.pending.toList.filter fun e => e.stop < o) :=
  .filter normal.apart (Nat.zero_le o) fun e _ low =>
    ⟨Nat.zero_le _, Nat.le_of_lt (by simpa using low)⟩

theorem placed_behind {o : Nat} (bound : o ≤ d.base.length) :
    Placed o d.base.length (d.pending.toList.filter fun e => o < e.start) :=
  .filter normal.apart bound fun e member high =>
    ⟨Nat.le_of_lt (by simpa using high), normal.inBase e member⟩

theorem front_stop_of_mem {e : Edit} (held : e ∈ d.pending.toList) :
    d.front (.base e.stop) = d.front (.within e e.text.length) := by
  rw [front, ← filter_upto_of_mem normal.apart held, stretch_append_cons, stretch_self,
    List.append_nil]
  rfl

theorem cells_eq_front_append_back {p : Position} (valid : d.HasPosition p) :
    d.cells = d.front p ++ d.back p := by
  cases p with
  | base o =>
    obtain ⟨bound, free⟩ := (hasPosition_base normal).1 valid
    have whole := filter_append_of_survives normal.apart free
    conv => lhs; rw [cells, ← whole]
    exact stretch_append (placed_before normal) (placed_behind normal bound)
  | within e k =>
    obtain ⟨member, bound⟩ := hasPosition_within.1 valid
    have whole := filter_append_cons_of_mem normal.apart member
    have parts : (ofEdit e 0 k).cells ++ (ofEdit e k e.text.length).cells =
        (ofEdit e 0 e.text.length).cells :=
      cells_slice_append e.text (some e) (Nat.zero_le k) bound
    conv => lhs; rw [cells, ← whole, stretch_append_cons, ← parts]
    simp only [front, back, List.append_assoc]

theorem length_front {p : Position} (valid : d.HasPosition p) :
    ((d.front p).length : Int) = d.offset p := by
  cases p with
  | base o =>
    obtain ⟨bound, free⟩ := (hasPosition_base normal).1 valid
    have size : ((stretch d.base 0 o _).length : Int) = _ :=
      length_stretch (placed_before normal) bound
    simp only [front, offset]
    omega
  | within e k =>
    obtain ⟨member, bound⟩ := hasPosition_within.1 valid
    have inside := normal.inBase e member
    have order := e.start_le_stop
    have size : ((stretch d.base 0 e.start _).length : Int) = _ :=
      length_stretch (placed_below normal) (by omega)
    have same : (d.pending.toList.filter fun f => f.start < e.start) =
        d.pending.toList.filter fun f => f.stop < e.start := by
      refine List.filter_congr fun f present => decide_eq_decide.2 ?_
      have other := f.start_le_stop
      rcases apart_or normal.apart member present with rfl | later | earlier
      · omega
      · omega
      · omega
    simp only [front, offset, same, List.length_append, length_cells, ofEdit, Text.length_slice]
    omega

theorem before_of_mem_front {p : Position} (valid : d.HasPosition p) {c : Cell}
    (member : c ∈ d.front p) : c.position.anchor < p.anchor := by
  cases p with
  | base o =>
    rcases (mem_stretch (placed_before normal)).1 member with ⟨i, _, below, _, _, named⟩ |
      ⟨f, present, k, _, named⟩
    · simpa [named] using below
    · have low : f.stop ≤ o := by simpa using (List.mem_filter.1 present).2
      have size := f.start_le_stop
      rw [named, Position.anchor_within_lt_base]
      omega
  | within e k =>
    rcases List.mem_append.1 member with outside | inside
    · rcases (mem_stretch (placed_below normal)).1 outside with ⟨i, _, below, _, _, named⟩ |
        ⟨f, present, m, _, named⟩
      · simpa [named] using below
      · have low : f.stop < e.start := by simpa using (List.mem_filter.1 present).2
        have size := f.start_le_stop
        rw [named, Position.anchor_within_lt_within]
        omega
    · obtain ⟨m, _, below, _, named⟩ := mem_cells_ofEdit.1 inside
      simp [named, below]

theorem le_of_mem_back {p : Position} (valid : d.HasPosition p) {c : Cell}
    (member : c ∈ d.back p) : p.anchor ≤ c.position.anchor := by
  rw [Anchor.le_iff_not_lt]
  cases p with
  | base o =>
    have bound := ((hasPosition_base normal).1 valid).1
    rcases (mem_stretch (placed_behind normal bound)).1 member with ⟨i, above, _, _, _, named⟩ |
      ⟨f, present, k, _, named⟩
    · simpa [named] using above
    · have high : o < f.start := by simpa using (List.mem_filter.1 present).2
      rw [named, Position.anchor_within_lt_base]
      omega
  | within e k =>
    have size := e.start_le_stop
    have bound := normal.inBase e (hasPosition_within.1 valid).1
    rcases List.mem_append.1 member with inside | outside
    · obtain ⟨m, above, _, _, named⟩ := mem_cells_ofEdit.1 inside
      simp [named, above]
    · rcases (mem_stretch (placed_behind normal bound)).1 outside with
        ⟨i, above, _, _, _, named⟩ | ⟨f, present, m, _, named⟩
      · rw [named, Position.anchor_base_lt_within]
        omega
      · have high : e.stop < f.start := by simpa using (List.mem_filter.1 present).2
        rw [named, Position.anchor_within_lt_within]
        omega

theorem cells_ascending : d.cells.Pairwise Cell.Before :=
  stretch_ascending normal.placed normal.apart

theorem mem_cells {c : Cell} :
    c ∈ d.cells ↔
      (∃ o, Survives d.pending.toList o ∧ d.base[o]? = some c.char ∧ c.position = .base o) ∨
      ∃ e ∈ d.pending.toList, ∃ k, e.text[k]? = some c.char ∧ c.position = .within e k := by
  rw [cells, mem_stretch normal.placed]
  refine or_congr_left (exists_congr fun o => ?_)
  constructor
  · rintro ⟨_, _, rest⟩
    exact rest
  · rintro ⟨free, found, named⟩
    exact ⟨Nat.zero_le o, (List.getElem?_eq_some_iff.1 found).1, free, found, named⟩

theorem hasPosition_of_mem_cells {c : Cell} (member : c ∈ d.cells) : d.HasPosition c.position := by
  rcases (mem_cells normal).1 member with ⟨o, free, found, named⟩ | ⟨e, held, k, found, named⟩
  · rw [named, hasPosition_base normal]
    exact ⟨Nat.le_of_lt (List.getElem?_eq_some_iff.1 found).1, free⟩
  · rw [named, hasPosition_within]
    exact ⟨held, Nat.le_of_lt (List.getElem?_eq_some_iff.1 found).1⟩

theorem offset_of_getElem? {i : Nat} {c : Cell} (found : d.cells[i]? = some c) :
    d.offset c.position = i := by
  have valid := hasPosition_of_mem_cells normal (List.mem_of_getElem? found)
  have split := cells_eq_front_append_back normal valid
  rw [← length_front normal valid]
  rcases Nat.lt_trichotomy i (d.front c.position).length with early | same | late
  · rw [split, List.getElem?_append_left early] at found
    have before := before_of_mem_front normal valid (List.mem_of_getElem? found)
    exact absurd before (Anchor.lt_irrefl _)
  · rw [same]
  · -- The first cell of the back would stand before this one and yet not have a smaller anchor.
    rw [split, List.getElem?_append_right (by omega)] at found
    have sorted := cells_ascending normal
    rw [split] at sorted
    have order := (List.pairwise_append.1 sorted).2.1
    have least := fun b => le_of_mem_back (c := b) normal valid
    cases rest : d.back c.position with
    | nil => simp [rest] at found
    | cons b later =>
      obtain ⟨m, index⟩ : ∃ m, i - (d.front c.position).length = m + 1 :=
        ⟨i - (d.front c.position).length - 1, by omega⟩
      rw [rest] at order least
      rw [rest, index, List.getElem?_cons_succ] at found
      have before := (List.pairwise_cons.1 order).1 c (List.mem_of_getElem? found)
      exact absurd before (least b (by simp))

theorem offset_lt_of_before {a b : Cell} (first : a ∈ d.cells) (second : b ∈ d.cells)
    (before : a.Before b) : d.offset a.position < d.offset b.position := by
  obtain ⟨i, here⟩ := List.getElem?_of_mem first
  obtain ⟨j, there⟩ := List.getElem?_of_mem second
  rw [offset_of_getElem? normal here, offset_of_getElem? normal there]
  obtain ⟨bound, rfl⟩ := List.getElem?_eq_some_iff.1 here
  obtain ⟨limit, rfl⟩ := List.getElem?_eq_some_iff.1 there
  rcases Nat.lt_trichotomy i j with less | same | more
  · omega
  · subst same
    exact absurd before (Anchor.lt_irrefl _)
  · have after := List.pairwise_iff_getElem.1 (cells_ascending normal) j i limit bound more
    exact absurd (Anchor.lt_trans before after) (Anchor.lt_irrefl _)

end Draft
end Spacing
