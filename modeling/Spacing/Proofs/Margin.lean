import Spacing.Proofs.Offset

/-! How far a change in a draft reaches. A new edit keeps the text that an edit around its start has
in front of it and the text that an edit around its end has behind it. The offsets it reaches to lie
at no edit and in no edit, so the pending edits are behind it, in it or ahead of it. -/
namespace Spacing

open Segment

/-- How far a new edit reaches on one side of the submitted text, and the text it keeps there. -/
structure Margin where
  offset : Nat
  text : Text

def Position.trail : Position → Margin
  | .base o => ⟨o, []⟩
  | .within e k => ⟨e.stop, e.text.drop k⟩

namespace Draft

/-- An edit that stops at a start in base text is taken over whole. -/
def lead (d : Draft) : Position → Margin
  | .base o => (d.pending.stoppingAt? o).elim ⟨o, []⟩ fun e => ⟨e.start, e.text⟩
  | .within e k => ⟨e.start, e.text.take k⟩

variable {d : Draft}

theorem lead_base_offset (start : Nat) :
    (d.lead (.base start)).offset = (d.pending.stoppingAt? start).elim start Edit.start := by
  rw [lead]
  cases d.pending.stoppingAt? start <;> rfl

theorem lead_base_text (start : Nat) :
    (d.lead (.base start)).text = (d.pending.stoppingAt? start).elim [] Edit.text := by
  rw [lead]
  cases d.pending.stoppingAt? start <;> rfl

variable (normal : d.IsNormal)
include normal

theorem lead_base_le (start : Nat) : (d.lead (.base start)).offset ≤ start := by
  rw [lead]
  cases left : d.pending.stoppingAt? start with
  | none => exact Nat.le_refl start
  | some l =>
    obtain ⟨_, touching⟩ := (Patch.stoppingAt?_eq_some_iff normal.apart).1 left
    have order := l.start_le_stop
    simp only [Option.elim_some]
    omega

theorem trail_le {p : Position} (valid : d.HasPosition p) : p.trail.offset ≤ d.base.length := by
  cases p with
  | base o => exact ((hasPosition_base normal).1 valid).1
  | within e k => exact normal.inBase e (hasPosition_within.1 valid).1

theorem behind_or_ahead_lead {p : Position} (valid : d.HasPosition p) {f : Edit}
    (member : f ∈ d.pending.toList) :
    f.stop < (d.lead p).offset ∨ (d.lead p).offset ≤ f.start := by
  have size := f.start_le_stop
  cases p with
  | base a =>
    have spared := ((hasPosition_base normal).1 valid).2 f member
    cases left : d.pending.stoppingAt? a with
    | none =>
      have free := (Patch.stoppingAt?_eq_none_iff normal.apart).1 left f member
      simp only [lead, left, Option.elim_none]
      omega
    | some l =>
      obtain ⟨held, touching⟩ := (Patch.stoppingAt?_eq_some_iff normal.apart).1 left
      have order := l.start_le_stop
      simp only [lead, left, Option.elim_some]
      rcases apart_or normal.apart held member with same | later | earlier
      · exact Or.inr (Nat.le_of_eq (congrArg Edit.start same))
      · omega
      · omega
  | within e k =>
    have order := e.start_le_stop
    simp only [lead]
    rcases apart_or normal.apart (hasPosition_within.1 valid).1 member with same | later | earlier
    · exact Or.inr (Nat.le_of_eq (congrArg Edit.start same))
    · omega
    · omega

theorem behind_or_ahead_trail {p : Position} (valid : d.HasPosition p) {f : Edit}
    (member : f ∈ d.pending.toList) :
    f.stop ≤ p.trail.offset ∨ p.trail.offset < f.start := by
  have size := f.start_le_stop
  cases p with
  | base b =>
    have spared := ((hasPosition_base normal).1 valid).2 f member
    simp only [Position.trail]
    omega
  | within e k =>
    simp only [Position.trail]
    rcases apart_or normal.apart (hasPosition_within.1 valid).1 member with same | later | earlier
    · exact Or.inl (Nat.le_of_eq (congrArg Edit.stop same.symm))
    · omega
    · have order := e.start_le_stop
      omega

theorem lt_lead_of_survives {p : Position} (valid : d.HasPosition p) {o : Nat}
    (free : Survives d.pending.toList o) (before : (Position.base o).anchor < p.anchor) :
    o < (d.lead p).offset := by
  cases p with
  | base a =>
    have less : o < a := by simpa using before
    cases left : d.pending.stoppingAt? a with
    | none => simpa only [lead, left, Option.elim_none] using less
    | some l =>
      obtain ⟨held, touching⟩ := (Patch.stoppingAt?_eq_some_iff normal.apart).1 left
      have spared := free l held
      simp only [lead, left, Option.elim_some]
      omega
  | within e k => simpa [lead] using before

omit normal in
theorem trail_le_of_survives {p : Position} (valid : d.HasPosition p) {o : Nat}
    (free : Survives d.pending.toList o) (after : p.anchor ≤ (Position.base o).anchor) :
    p.trail.offset ≤ o := by
  rw [Anchor.le_iff_not_lt] at after
  cases p with
  | base b => simpa [Position.trail] using after
  | within e k =>
    have spared := free e (hasPosition_within.1 valid).1
    have reached : ¬ o < e.start := by simpa using after
    simp only [Position.trail]
    omega

theorem anchor_lt_of_lt_lead {p : Position} {f : Edit} (behind : f.stop < (d.lead p).offset)
    (k : Nat) : (Position.within f k).anchor < p.anchor := by
  have size := f.start_le_stop
  cases p with
  | base a =>
    have low := lead_base_le normal a
    rw [Position.anchor_within_lt_base]
    omega
  | within e m =>
    simp only [lead] at behind
    rw [Position.anchor_within_lt_within]
    omega

omit normal in
theorem anchor_lt_of_trail_lt {p : Position} {f : Edit} (ahead : p.trail.offset < f.start)
    (k : Nat) : p.anchor < (Position.within f k).anchor := by
  cases p with
  | base b => exact Position.anchor_base_lt_within.2 ahead
  | within e m =>
    have size := e.start_le_stop
    simp only [Position.trail] at ahead
    rw [Position.anchor_within_lt_within]
    omega

theorem map_char_front {p : Position} (valid : d.HasPosition p) :
    (d.front p).map Cell.char =
      (stretch d.base 0 (d.lead p).offset
        (d.pending.toList.filter fun e => e.stop < (d.lead p).offset)).map Cell.char ++
        (d.lead p).text := by
  cases p with
  | base a =>
    cases left : d.pending.stoppingAt? a with
    | none =>
      have same : (d.pending.toList.filter fun e => e.stop ≤ a) =
          d.pending.toList.filter fun e => e.stop < a := by
        refine List.filter_congr fun e member => decide_eq_decide.2 ?_
        have free := (Patch.stoppingAt?_eq_none_iff normal.apart).1 left e member
        omega
      simp [front, lead, left, same]
    | some l =>
      obtain ⟨held, touching⟩ := (Patch.stoppingAt?_eq_some_iff normal.apart).1 left
      have stop : l.stop = a := by omega
      have same : d.front (.base a) = d.front (.within l l.text.length) :=
        stop ▸ front_stop_of_mem normal held
      rw [same, front]
      simp [lead, left, ofEdit, Text.slice_self]
  | within e k =>
    have kept : (ofEdit e 0 k).text = e.text.take k := by simp [ofEdit, Text.slice]
    rw [front, List.map_append, map_char_cells, kept]
    rfl

omit normal in
theorem map_char_back (p : Position) :
    (d.back p).map Cell.char = p.trail.text ++
      (stretch d.base p.trail.offset d.base.length
        (d.pending.toList.filter fun e => p.trail.offset < e.start)).map Cell.char := by
  cases p with
  | base o => rfl
  | within e k =>
    have kept : (ofEdit e k e.text.length).text = e.text.drop k :=
      List.take_of_length_le (by simp)
    rw [back, List.map_append, map_char_cells, kept]
    rfl

end Draft
end Spacing
