import Spacing.Proofs.Search
import Spacing.Proofs.Tokens

namespace Spacing

open Segment

def tokensBetween (base : Text) (low high : Anchor) : Set Nat :=
  {o | IsToken base o ∧ low ≤ (Position.base o).anchor ∧ (Position.base o).anchor < high}

theorem tokensBetween_base (base : Text) (a b : Nat) :
    tokensBetween base (Position.base a).anchor (Position.base b).anchor =
      {o | a ≤ o ∧ o < b ∧ IsToken base o} := by
  ext o
  constructor
  · rintro ⟨token, low, high⟩
    rw [Anchor.le_iff_not_lt, Position.anchor_base_lt_base, Nat.not_lt] at low
    exact ⟨low, Position.anchor_base_lt_base.1 high, token⟩
  · rintro ⟨low, high, token⟩
    refine ⟨token, ?_, Position.anchor_base_lt_base.2 high⟩
    rw [Anchor.le_iff_not_lt, Position.anchor_base_lt_base, Nat.not_lt]
    exact low

/-- The answer is the first of the tokens in the direction, or there are none. -/
structure FirstToken (tokens : Set Nat) (direction : Direction) (found : Option Hit) : Prop where
  none_iff : found = none ↔ ∀ o, o ∉ tokens
  some_iff : ∀ h, found = some h ↔ ∃ o, h = ⟨.base o, .nonBlank⟩ ∧ direction.IsFirst tokens o

theorem FirstToken.of_empty {tokens : Set Nat} {direction : Direction}
    (empty : ∀ o, o ∉ tokens) : FirstToken tokens direction none where
  none_iff := ⟨fun _ => empty, fun _ => rfl⟩
  some_iff h := by
    constructor
    · intro equal
      cases equal
    · rintro ⟨o, _, first⟩
      exact absurd first.mem (empty o)

theorem FirstToken.of_isFirst {tokens : Set Nat} {direction : Direction} {o : Nat}
    (first : direction.IsFirst tokens o) :
    FirstToken tokens direction (some ⟨.base o, .nonBlank⟩) where
  none_iff := by
    constructor
    · intro equal
      cases equal
    · intro empty
      exact absurd first.mem (empty o)
  some_iff h := by
    constructor
    · intro equal
      exact ⟨o, (Option.some.inj equal).symm, first⟩
    · rintro ⟨p, rfl, other⟩
      rw [first.unique other]

theorem FirstToken.unique {tokens : Set Nat} {direction : Direction} {x y : Option Hit}
    (first : FirstToken tokens direction x) (second : FirstToken tokens direction y) : x = y := by
  apply Option.ext
  intro h
  exact (first.some_iff h).trans (second.some_iff h).symm

namespace Draft

variable {d : Draft}

section Normal

variable (normal : d.IsNormal) {r : Range} (valid : d.HasRange r)
include normal valid

theorem mem_cellsOf_of_token {o : Nat} {c : Char} (found : d.base[o]? = some c)
    (dark : isBlank c = false) (low : r.start.anchor ≤ (Position.base o).anchor)
    (high : (Position.base o).anchor < r.stop.anchor) :
    ⟨.base o, c⟩ ∈ cellsOf (d.segments r) :=
  (mem_cellsOf_segments_iff normal valid).2 ⟨mem_cells_of_token normal found dark, low, high⟩

theorem isFirst_token {direction : Direction} {c : Cell} (member : c ∈ cellsOf (d.segments r))
    (dark : isBlank c.char = false)
    (first : ∀ b ∈ cellsOf (d.segments r), isBlank b.char = false →
      direction.NoLater c.position.anchor b.position.anchor) :
    ∃ o, c.position = .base o ∧
      direction.IsFirst (tokensBetween d.base r.start.anchor r.stop.anchor) o := by
  obtain ⟨present, low, high⟩ := (mem_cellsOf_segments_iff normal valid).1 member
  obtain ⟨o, char, named⟩ := token_of_mem_cells normal present dark
  rw [named] at low high
  refine ⟨o, named, .of_noLater ⟨⟨c.char, char, dark⟩, low, high⟩ ?_⟩
  rintro p ⟨⟨char', found, dark'⟩, low', high'⟩
  have order := first _ (mem_cellsOf_of_token normal valid found dark' low' high') dark'
  rw [named] at order
  cases direction with
  | forward =>
    have least : ¬ p < o := by simpa [Direction.NoLater, Anchor.le_iff_not_lt] using order
    exact Nat.le_of_not_lt least
  | backward =>
    have greatest : ¬ o < p := by simpa [Direction.NoLater, Anchor.le_iff_not_lt] using order
    exact Nat.le_of_not_lt greatest

theorem search_nonBlank (direction : Direction) :
    ∃ found, d.search r .nonBlank direction = .ok found ∧
      FirstToken (tokensBetween d.base r.start.anchor r.stop.anchor) direction found := by
  cases search_ends normal valid .nonBlank direction with
  | missed result refused =>
    refine ⟨none, result, .of_empty ?_⟩
    rintro o ⟨⟨c, found, dark⟩, low, high⟩
    have rejected := refused _ (mem_cellsOf_of_token normal valid found dark low high)
    simp [Target.accepts, dark] at rejected
  | stopped c result member accepted first =>
    have dark : isBlank c.char = false := by simpa [Target.accepts] using accepted
    have earliest : ∀ b ∈ cellsOf (d.segments r), isBlank b.char = false →
        direction.NoLater c.position.anchor b.position.anchor := by
      intro b inside bold
      exact first b inside (by simpa [Target.accepts] using bold)
    obtain ⟨o, named, token⟩ := isFirst_token normal valid member dark earliest
    have mark : Mark.of c.char = .nonBlank := by
      refine if_neg fun line_break => ?_
      simp [isBlank_of_isLineBreak line_break] at dark
    refine ⟨some c.hit, result, ?_⟩
    rw [Cell.hit, named, mark]
    exact .of_isFirst token

end Normal

/-- Two drafts of one base text answer a search for a token alike, whatever their histories, and
never with a place in an edit. -/
theorem token_search_reads_base {base : Text} {config config' : Config} {d e : Draft}
    (first : Reachable base config d) (second : Reachable base config' e) :
    (∀ a b, d.HasRange ⟨.base a, .base b⟩ → e.HasRange ⟨.base a, .base b⟩ → ∀ direction,
      ∃ found, d.search (Range.mk (.base a) (.base b)) .nonBlank direction = .ok found ∧
        e.search (Range.mk (.base a) (.base b)) .nonBlank direction = .ok found ∧
        FirstToken {o | a ≤ o ∧ o < b ∧ IsToken base o} direction found) ∧
      ∀ r : Range, d.HasRange r → ∀ direction,
        ∃ found, d.search r .nonBlank direction = .ok found ∧
          ∀ h ∈ found, ∀ f k, h.position ≠ .within f k := by
  constructor
  · intro a b here there direction
    obtain ⟨found, result, token⟩ := search_nonBlank first.normal here direction
    obtain ⟨found', result', token'⟩ := search_nonBlank second.normal there direction
    rw [first.base_eq, tokensBetween_base] at token
    rw [second.base_eq, tokensBetween_base] at token'
    rw [← token.unique token'] at result'
    exact ⟨found, result, result', token⟩
  · intro r valid direction
    obtain ⟨found, result, token⟩ := search_nonBlank first.normal valid direction
    refine ⟨found, result, ?_⟩
    intro h member f k
    obtain ⟨o, rfl, _⟩ := (token.some_iff h).1 member
    simp

theorem token_search_reads_base_joined :
    let d := (ofBase ['a', ' ', ' ', 'b'] .standard).after
      [⟨⟨some (.base 1), some (.base 2)⟩, ['\n', '\t']⟩, ⟨⟨some (.base 2), some (.base 3)⟩, []⟩]
    let e := (ofBase ['a', ' ', ' ', 'b'] .standard).after
      [⟨⟨some (.base 4), some (.base 4)⟩, ['\n']⟩]
    let r : Range := ⟨.base 0, .base 4⟩
    d.rendered = ['a', '\n', '\t', 'b'] ∧ e.rendered = ['a', ' ', ' ', 'b', '\n'] ∧
      d.HasRange r ∧ e.HasRange r ∧
      d.search r .nonBlank .backward = .ok (some ⟨.base 3, .nonBlank⟩) ∧
      e.search r .nonBlank .backward = .ok (some ⟨.base 3, .nonBlank⟩) := by
  intro d e r
  have here : d.HasRange r := by decide +kernel
  have there : e.HasRange r := by decide +kernel
  obtain ⟨found, result, result', token⟩ := (token_search_reads_base
    (Reachable.start.after _ : Reachable ['a', ' ', ' ', 'b'] .standard d)
    (Reachable.start.after _ : Reachable ['a', ' ', ' ', 'b'] .standard e)).1 0 4 here there
      .backward
  have last : Direction.backward.IsFirst
      {o | 0 ≤ o ∧ o < 4 ∧ IsToken ['a', ' ', ' ', 'b'] o} 3 := by
    refine ⟨⟨Nat.zero_le 3, by decide, 'b', rfl, by decide⟩, ?_⟩
    rintro o ⟨_, bound, _⟩
    omega
  have hit : found = some ⟨.base 3, .nonBlank⟩ := (token.some_iff _).2 ⟨3, rfl, last⟩
  exact ⟨by decide +kernel, by decide +kernel, here, there, hit ▸ result, hit ▸ result'⟩

end Draft
end Spacing
