import Spacing.Proofs.NormalForm
import Spacing.Proofs.Rendering

/-! Positions address the edited text. Every place from its beginning to its end has a position, and
anchors order positions as they stand in it, although no anchor looks at what the edits before it
have written. The end of an edit is the one place with two names. -/
namespace Spacing.Draft

open Segment

variable {d : Draft}

section Normal

variable (normal : d.IsNormal)
include normal

theorem survives_stop {e : Edit} (held : e ∈ d.pending.toList) :
    Survives d.pending.toList e.stop := by
  intro f member covered
  have size := e.start_le_stop
  rcases apart_or normal.apart held member with rfl | later | earlier
  · omega
  · omega
  · omega

theorem hasPosition_stop {e : Edit} (held : e ∈ d.pending.toList) :
    d.HasPosition (.base e.stop) :=
  (hasPosition_base normal).2 ⟨normal.inBase e held, survives_stop normal held⟩

theorem hasPosition_end : d.HasPosition (.base d.base.length) := by
  refine (hasPosition_base normal).2 ⟨Nat.le_refl _, ?_⟩
  intro e member covered
  have inside := normal.inBase e member
  omega

theorem offset_end : d.offset (.base d.base.length) = d.rendered.length := by
  have whole : (d.pending.toList.filter fun e => e.stop ≤ d.base.length) = d.pending.toList :=
    List.filter_eq_self.2 fun e member => by simpa using normal.inBase e member
  have all : d.front (.base d.base.length) = d.cells := by
    rw [front, whole]
    rfl
  rw [← length_front normal (hasPosition_end normal), all, rendered_eq normal, List.length_map]

theorem offset_stop_of_mem {e : Edit} (held : e ∈ d.pending.toList) :
    d.offset (.base e.stop) = d.offset (.within e e.text.length) := by
  have inside : d.HasPosition (.within e e.text.length) :=
    hasPosition_within.2 ⟨held, Nat.le_refl _⟩
  rw [← length_front normal (hasPosition_stop normal held), front_stop_of_mem normal held,
    length_front normal inside]

theorem exists_position {i : Nat} (bound : i ≤ d.rendered.length) :
    ∃ p, d.HasPosition p ∧ d.offset p = i := by
  rcases Nat.lt_or_eq_of_le bound with inside | last
  · have found : i < d.cells.length := by
      rwa [rendered_eq normal, List.length_map] at inside
    have read : d.cells[i]? = some d.cells[i] := List.getElem?_eq_getElem found
    exact ⟨_, hasPosition_of_mem_cells normal (List.mem_of_getElem? read),
      offset_of_getElem? normal read⟩
  · exact ⟨_, hasPosition_end normal, last ▸ offset_end normal⟩

theorem getElem?_rendered_base {o : Nat} (valid : d.HasPosition (.base o))
    (inside : o < d.base.length) :
    d.rendered[(d.offset (.base o)).toNat]? = some d.base[o] := by
  have free := ((hasPosition_base normal).1 valid).2
  have member : ⟨.base o, d.base[o]⟩ ∈ d.cells :=
    (mem_cells normal).2 (Or.inl ⟨o, free, List.getElem?_eq_getElem inside, rfl⟩)
  exact (getElem?_rendered_of_mem_cells normal member).2

theorem getElem?_rendered_within {e : Edit} {k : Nat} (held : e ∈ d.pending.toList)
    (inside : k < e.text.length) :
    d.rendered[(d.offset (.within e k)).toNat]? = some e.text[k] := by
  have member : ⟨.within e k, e.text[k]⟩ ∈ d.cells :=
    (mem_cells normal).2 (Or.inr ⟨e, held, k, List.getElem?_eq_getElem inside, rfl⟩)
  exact (getElem?_rendered_of_mem_cells normal member).2

section Pair

variable {p q : Position} (first : d.HasPosition p) (second : d.HasPosition q)
include first second

omit normal in
theorem anchor_inj : p.anchor = q.anchor ↔ p = q := by
  constructor
  · intro same
    cases p with
    | base a =>
      cases q with
      | base b =>
        simp only [Position.anchor, Anchor.mk.injEq, Int.natCast_inj, and_true] at same
        rw [same]
      | within f m => simp [Position.anchor] at same
    | within e k =>
      cases q with
      | base b => simp [Position.anchor] at same
      | within f m =>
        simp only [Position.anchor, Anchor.mk.injEq, Int.natCast_inj, true_and] at same
        have equal : e = f :=
          Patch.eq_of_start_eq (hasPosition_within.1 first).1 (hasPosition_within.1 second).1 same.1
        rw [equal, same.2]
  · intro same
    rw [same]

theorem offset_le_of_anchor_le (order : p.anchor ≤ q.anchor) : d.offset p ≤ d.offset q := by
  have size := @offset_stop_eq d normal ⟨p, q⟩ ⟨first, second, order⟩
  simp only at size
  omega

theorem offset_lt_of_mem_cells {c : Cell} (member : c ∈ d.cells)
    (low : p.anchor ≤ c.position.anchor) (high : c.position.anchor < q.anchor) :
    d.offset p < d.offset q := by
  have valid : d.HasRange ⟨p, q⟩ :=
    ⟨first, second, Anchor.le_of_lt (Anchor.lt_of_le_of_lt low high)⟩
  have between := (mem_cellsOf_segments_iff normal valid).2 ⟨member, low, high⟩
  have size := offset_stop_eq normal valid
  have filled := List.length_pos_of_mem between
  simp only at size filled
  omega

omit first in
theorem lt_length_of_lt {o : Nat} (before : (Position.base o).anchor < q.anchor) :
    o < d.base.length := by
  cases q with
  | base b =>
    have bound := ((hasPosition_base normal).1 second).1
    have less : o < b := by simpa using before
    omega
  | within f m =>
    have inside := normal.inBase f (hasPosition_within.1 second).1
    have size := f.start_le_stop
    have less : o < f.start := by simpa using before
    omega

section Tied

variable (tied : d.offset p = d.offset q)
include tied

theorem not_mem_cells_of_tied {c : Cell} (low : p.anchor ≤ c.position.anchor)
    (high : c.position.anchor < q.anchor) : c ∉ d.cells := by
  intro member
  have less := offset_lt_of_mem_cells normal first second member low high
  omega

theorem not_survives_of_tied {o : Nat} (low : p.anchor ≤ (Position.base o).anchor)
    (high : (Position.base o).anchor < q.anchor) : ¬ Survives d.pending.toList o := by
  intro free
  have inside := lt_length_of_lt normal second high
  exact not_mem_cells_of_tied normal first second tied (c := ⟨.base o, d.base[o]⟩) low high
    ((mem_cells normal).2 (Or.inl ⟨o, free, List.getElem?_eq_getElem inside, rfl⟩))

theorem edit_of_tied (before : p.anchor < q.anchor) :
    ∃ e ∈ d.pending.toList, p = .within e e.text.length ∧ q = .base e.stop := by
  cases p with
  | base a =>
    have free := ((hasPosition_base normal).1 first).2
    exact absurd free (not_survives_of_tied normal first second tied (Anchor.lt_irrefl _) before)
  | within e k =>
    obtain ⟨held, bound⟩ := hasPosition_within.1 first
    have size := e.start_le_stop
    have all : k = e.text.length := by
      by_contra short
      have found : e.text[k]? = some e.text[k] := List.getElem?_eq_getElem (by omega)
      exact not_mem_cells_of_tied normal first second tied (c := ⟨.within e k, e.text[k]⟩)
        (Anchor.lt_irrefl _) before ((mem_cells normal).2 (Or.inr ⟨e, held, k, found, rfl⟩))
    -- The base position behind the edit exists, so it must not come before `q`.
    have low : (Position.within e k).anchor ≤ (Position.base e.stop).anchor := by
      rw [Anchor.le_iff_not_lt, Position.anchor_base_lt_within]
      omega
    have high : ¬ (Position.base e.stop).anchor < q.anchor := fun high =>
      not_survives_of_tied normal first second tied low high (survives_stop normal held)
    refine ⟨e, held, by rw [all], ?_⟩
    cases q with
    | base b =>
      have spared := ((hasPosition_base normal).1 second).2 e held
      rw [Position.anchor_within_lt_base] at before
      rw [Position.anchor_base_lt_base] at high
      have same : b = e.stop := by omega
      rw [same]
    | within f m =>
      obtain ⟨other, limit⟩ := hasPosition_within.1 second
      have order := f.start_le_stop
      rw [Position.anchor_within_lt_within] at before
      rw [Position.anchor_base_lt_within] at high
      rcases apart_or normal.apart held other with rfl | later | earlier
      · omega
      · omega
      · omega

end Tied

theorem offset_eq_iff :
    p ≠ q ∧ d.offset p = d.offset q ↔ ∃ e ∈ d.pending.toList,
      p = .within e e.text.length ∧ q = .base e.stop ∨
      p = .base e.stop ∧ q = .within e e.text.length := by
  constructor
  · rintro ⟨other, same⟩
    rcases Anchor.lt_trichotomy p.anchor q.anchor with less | equal | more
    · obtain ⟨e, held, names⟩ := edit_of_tied normal first second same less
      exact ⟨e, held, Or.inl names⟩
    · exact absurd ((anchor_inj first second).1 equal) other
    · obtain ⟨e, held, names⟩ := edit_of_tied normal second first same.symm more
      exact ⟨e, held, Or.inr names.symm⟩
  · rintro ⟨e, held, ⟨rfl, rfl⟩ | ⟨rfl, rfl⟩⟩
    · exact ⟨by simp, (offset_stop_of_mem normal held).symm⟩
    · exact ⟨by simp, offset_stop_of_mem normal held⟩

end Pair

end Normal

/-- Positions and places of the edited text correspond, the two names of an edit's end apart. -/
theorem positions_address_rendered {base : Text} {config : Config}
    (reached : Reachable base config d) :
    (∀ p, d.HasPosition p → 0 ≤ d.offset p ∧ d.offset p ≤ d.rendered.length) ∧
      (∀ i : Nat, i ≤ d.rendered.length → ∃ p, d.HasPosition p ∧ d.offset p = i) ∧
      (∀ p q, d.HasPosition p → d.HasPosition q →
        (p.anchor = q.anchor ↔ p = q) ∧
        (p.anchor ≤ q.anchor → d.offset p ≤ d.offset q) ∧
        (p ≠ q ∧ d.offset p = d.offset q ↔ ∃ e ∈ d.pending.toList,
          p = .within e e.text.length ∧ q = .base e.stop ∨
          p = .base e.stop ∧ q = .within e e.text.length)) ∧
      (∀ o (inside : o < base.length), d.HasPosition (.base o) →
        d.rendered[(d.offset (.base o)).toNat]? = some base[o]) ∧
      ∀ e ∈ d.pending.toList, ∀ k (inside : k < e.text.length),
        d.rendered[(d.offset (.within e k)).toNat]? = some e.text[k] := by
  have normal := reached.normal
  obtain rfl := reached.base_eq
  refine ⟨?_, ?_, ?_, ?_, ?_⟩
  · intro p valid
    exact ⟨offset_nonneg normal valid, offset_le_length normal valid⟩
  · intro i bound
    exact exists_position normal bound
  · intro p q first second
    exact ⟨anchor_inj first second, offset_le_of_anchor_le normal first second,
      offset_eq_iff normal first second⟩
  · intro o inside valid
    exact getElem?_rendered_base normal valid inside
  · intro e held k inside
    exact getElem?_rendered_within normal held inside

theorem positions_address_rendered_joined :
    let e : Edit := ⟨1, 3, ['\n', '\t'], by decide, by decide⟩
    let d := (ofBase ['a', ' ', ' ', 'b'] .standard).after
      [⟨⟨some (.base 1), some (.base 2)⟩, ['\n']⟩, ⟨⟨some (.base 2), some (.base 3)⟩, ['\t']⟩]
    d.rendered = ['a', '\n', '\t', 'b'] ∧ d.HasPosition (.within e 2) ∧ d.HasPosition (.base 3) ∧
      d.offset (.within e 2) = d.offset (.base 3) ∧ ∃ p, d.HasPosition p ∧ d.offset p = 4 := by
  intro e d
  have all := positions_address_rendered (Reachable.start.after
    [⟨⟨some (.base 1), some (.base 2)⟩, ['\n']⟩, ⟨⟨some (.base 2), some (.base 3)⟩, ['\t']⟩] :
    Reachable ['a', ' ', ' ', 'b'] .standard d)
  have inner : d.HasPosition (.within e 2) := by decide +kernel
  have outer : d.HasPosition (.base 3) := by decide +kernel
  have held : e ∈ d.pending.toList := by decide +kernel
  exact ⟨by decide +kernel, inner, outer,
    ((all.2.2.1 _ _ inner outer).2.2.2 ⟨e, held, Or.inl ⟨rfl, rfl⟩⟩).2,
    all.2.1 4 (by decide +kernel)⟩

end Spacing.Draft
