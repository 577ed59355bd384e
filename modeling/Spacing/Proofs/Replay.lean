import Spacing.Proofs.Separation

namespace Spacing

open Segment

namespace Edit

def replacement (e : Edit) : Replacement := ⟨e.start, e.stop, e.text, e.start_le_stop⟩

/-- The range of an edit's whole text, which ends at the base text behind the edit. A deletion has
no text, so its range is empty. -/
def extent (e : Edit) : Range :=
  ⟨if e.text = [] then .base e.stop else .within e 0, .base e.stop⟩

end Edit

namespace Draft

structure Admits (d : Draft) (e : Edit) : Prop where
  apart : ∀ f ∈ d.pending.toList, e.stop < f.start ∨ f.stop < e.start
  inBase : e.stop ≤ d.base.length
  solid : e.isVoid = false
  blank : (d.base.slice e.start e.stop).IsBlank

variable {d : Draft} {e : Edit}

namespace Admits

theorem between_eq_nil (room : d.Admits e) : d.pending.between e.start e.stop = [] := by
  rw [Patch.between_eq, List.filter_eq_nil_iff]
  intro f member
  have size := f.start_le_stop
  rw [decide_eq_true_eq]
  rcases room.apart f member with ahead | behind
  · omega
  · omega

theorem textOf_segments (room : d.Admits e) :
    textOf (d.segments e.replacement.range) = d.base.slice e.start e.stop := by
  have apart : ¬ InOneEdit e.replacement.range := by
    rintro ⟨f, lo, hi, same⟩
    simp [Edit.replacement, Replacement.range] at same
  rw [segments_of_not_inOneEdit apart, ← map_char_cellsOf, cellsOf_filter, map_char_cellsOf]
  simp [Edit.replacement, Replacement.range, across, opening, closing, Segment.inner,
    room.between_eq_nil, alternate, textOf, Segment.ofBase]

theorem objection?_eq_none (room : d.Admits e) : d.objection? e.replacement.range = none := by
  have swallowed : d.inside e.start e.stop none = [] := by
    rw [inside, room.between_eq_nil, List.filter_nil]
  simp [objection?, Edit.replacement, Replacement.range, crowded?, swallowed]

theorem busy (room : d.Admits e) :
    ¬ (e.replacement.range.start = e.replacement.range.stop ∧ e.text = []) := by
  rintro ⟨same, nothing⟩
  have empty : e.start = e.stop := Position.base.inj same
  have solid := room.solid
  simp [Edit.isVoid, Edit.isInsertion, empty, nothing] at solid

theorem refusal?_eq_none (room : d.Admits e) :
    d.refusal? e.replacement.range e.text = none := by
  rw [refusal?_eq_none_iff room.busy, room.textOf_segments]
  exact ⟨e.blank, room.blank, room.objection?_eq_none⟩

variable (normal : d.IsNormal) (room : d.Admits e)
include normal room

theorem hasRange : d.HasRange e.replacement.range := by
  have order := e.start_le_stop
  have bound := room.inBase
  have stands : ∀ o, o = e.start ∨ o = e.stop → d.HasPosition (.base o) := by
    intro o bounds
    rw [hasPosition_base normal]
    refine ⟨by omega, fun f member => ?_⟩
    rcases room.apart f member with ahead | behind
    · omega
    · omega
  refine ⟨stands e.start (Or.inl rfl), stands e.stop (Or.inr rfl), ?_⟩
  simpa [Anchor.le_iff_not_lt, Edit.replacement, Replacement.range] using order

theorem lead_eq : d.lead (.base e.start) = ⟨e.start, []⟩ := by
  have loose : d.pending.stoppingAt? e.start = none := by
    rw [Patch.stoppingAt?_eq_none_iff normal.apart]
    intro f member
    have order := e.start_le_stop
    have size := f.start_le_stop
    rcases room.apart f member with ahead | behind
    · omega
    · omega
  rw [lead, loose, Option.elim_none]

theorem edit_eq {c : Change} (suits : d.Suits e.replacement.range e.text c) :
    c.edit = e ∧ c.shift = 0 := by
  have lead : d.lead e.replacement.range.start = ⟨e.start, []⟩ := room.lead_eq normal
  have text : c.edit.text = [] ++ e.text ++ [] := by
    rw [suits.text_eq, lead]
    rfl
  constructor
  · apply Edit.ext
    · rw [suits.start_eq, lead]
    · exact suits.stop_eq
    · rw [text, List.nil_append, List.append_nil]
  · rw [suits.shift_eq, lead, List.length_nil]

theorem submit : (d.submit e.replacement.range e.text).result = .ok e.extent ∧
    ∀ f, f ∈ (d.submit e.replacement.range e.text).draft.pending.toList ↔
      f = e ∨ f ∈ d.pending.toList := by
  obtain ⟨c, suits, result, pending, _⟩ :=
    submit_of_clear (room.hasRange normal) normal room.refusal?_eq_none room.busy
  obtain ⟨stored, unshifted⟩ := room.edit_eq normal suits
  constructor
  · rw [result, Change.landing, stored, unshifted, Edit.extent]
    by_cases nothing : e.text = []
    · simp [nothing]
    · simp [nothing]
  · intro f
    rw [pending, stored, mem_changed]
    constructor
    · rintro (⟨member, _⟩ | ⟨rfl, _⟩)
      · exact Or.inr member
      · exact Or.inl rfl
    · rintro (rfl | member)
      · exact Or.inr ⟨rfl, room.solid⟩
      · exact Or.inl ⟨member, (room.apart f member).symm⟩

theorem after_submit {f : Edit} (beside : d.Admits f)
    (apart : e.stop < f.start ∨ f.stop < e.start) :
    (d.submit e.replacement.range e.text).draft.Admits f := by
  refine ⟨fun g member => ?_, beside.inBase, beside.solid, beside.blank⟩
  rcases ((room.submit normal).2 g).1 member with rfl | held
  · exact apart.symm
  · exact beside.apart g held

end Admits

theorem run_replay (normal : d.IsNormal) {es : List Edit}
    (apart : es.Pairwise fun e f => e.stop < f.start ∨ f.stop < e.start)
    (room : ∀ e ∈ es, d.Admits e) :
    d.answers (es.map fun e => e.replacement.submitted) = (es.map fun e => .ok e.extent) ∧
      ∀ f, f ∈ (d.after (es.map fun e => e.replacement.submitted)).pending.toList ↔
        f ∈ es ∨ f ∈ d.pending.toList := by
  induction es generalizing d with
  | nil => exact ⟨rfl, fun f => by simp [after]⟩
  | cons e rest ih =>
    obtain ⟨beside, apart⟩ := List.pairwise_cons.1 apart
    have first := room e List.mem_cons_self
    obtain ⟨answer, pending⟩ := first.submit normal
    have still : ∀ f ∈ rest, (d.submit e.replacement.range e.text).draft.Admits f := by
      intro f member
      exact first.after_submit normal (room f (List.mem_cons_of_mem e member)) (beside f member)
    obtain ⟨answers, members⟩ :=
      ih (normal_submit normal e.replacement.range e.text) apart still
    constructor
    · rw [List.map_cons, List.map_cons, ← answer, ← answers]
      rfl
    · intro f
      have last : f ∈ (d.after ((e :: rest).map fun e => e.replacement.submitted)).pending.toList ↔
          f ∈ rest ∨ f ∈ (d.submit e.replacement.range e.text).draft.pending.toList := members f
      rw [last, pending f, List.mem_cons, or_left_comm, or_assoc]

theorem admits_ofBase {base : Text} {config : Config} {edits : List Edit}
    (normal : Normal base edits) (member : e ∈ edits) : (ofBase base config).Admits e :=
  ⟨fun _ held => absurd held List.not_mem_nil, normal.inBase e member, normal.solid e member,
    normal.blank e member⟩

theorem replay_ofBase {base : Text} (config : Config) {edits order : List Edit}
    (normal : Normal base edits) (perm : order.Perm edits) :
    (ofBase base config).answers (order.map fun e => e.replacement.submitted) =
        (order.map fun e => .ok e.extent) ∧
      ((ofBase base config).after
        (order.map fun e => e.replacement.submitted)).pending.toList = edits := by
  have start := normal_ofBase base config
  -- Which of two edits comes first is lost with the order, that they keep apart is not.
  have apart : order.Pairwise fun e f => e.stop < f.start ∨ f.stop < e.start :=
    (perm.pairwise_iff fun {_ _} either => Or.symm either).2 (normal.apart.imp Or.inl)
  have room : ∀ e ∈ order, (ofBase base config).Admits e := fun e member =>
    admits_ofBase normal (perm.mem_iff.1 member)
  obtain ⟨answers, members⟩ := run_replay start apart room
  refine ⟨answers, eq_of_ascending (Patch.ascending _) (ascending_of_apart normal.apart) ?_⟩
  intro f
  rw [members f, perm.mem_iff]
  exact or_iff_left List.not_mem_nil

/-- Edits in normal form are restored from the base text in any order, each submission taken, so
the normal form is exactly what can be reached, and the pending edits of a draft bring it back. -/
theorem edits_restore_draft (base : Text) (config : Config) :
    (∀ edits order : List Edit, Normal base edits → order.Perm edits →
      (ofBase base config).answers (order.map fun e => e.replacement.submitted) =
          (order.map fun e => .ok e.extent) ∧
        ((ofBase base config).after
          (order.map fun e => e.replacement.submitted)).pending.toList = edits) ∧
      (∀ edits : List Edit,
        (∃ d, Reachable base config d ∧ d.pending.toList = edits) ↔ Normal base edits) ∧
      ∀ (d : Draft) (order : List Edit), Reachable base config d →
        order.Perm d.pending.toList →
        (ofBase base config).after (order.map fun e => e.replacement.submitted) = d := by
  refine ⟨fun edits order normal perm => replay_ofBase config normal perm, fun edits => ?_, ?_⟩
  · constructor
    · rintro ⟨d, reached, rfl⟩
      rw [← reached.base_eq]
      exact reached.normal
    · intro normal
      exact ⟨_, Reachable.start.after _, (replay_ofBase config normal (List.Perm.refl edits)).2⟩
  · intro d order reached perm
    have normal : Normal base d.pending.toList := reached.base_eq ▸ reached.normal
    have restored : Reachable base config ((ofBase base config).after
        (order.map fun e => e.replacement.submitted)) := Reachable.start.after _
    apply eq_of_pending
    · rw [restored.base_eq, reached.base_eq]
    · rw [restored.config_eq, reached.config_eq]
    · exact (replay_ofBase config normal perm).2

theorem edits_restore_draft_shuffled :
    let first : Edit := ⟨0, 0, ['\n'], by decide, by decide⟩
    let middle : Edit := ⟨1, 2, [], by decide, by decide⟩
    let last : Edit := ⟨3, 3, ['\t'], by decide, by decide⟩
    let base : Text := ['a', ' ', 'b']
    Normal base [first, middle, last] ∧
      (ofBase base .standard).answers
          ([last, first, middle].map fun e => e.replacement.submitted) =
        [.ok ⟨.within last 0, .base 3⟩, .ok ⟨.within first 0, .base 0⟩,
          .ok ⟨.base 2, .base 2⟩] ∧
      ((ofBase base .standard).after
        ([last, first, middle].map fun e => e.replacement.submitted)).pending.toList =
          [first, middle, last] := by
  intro first middle last base
  have normal : Normal base [first, middle, last] :=
    ⟨by decide, by decide, by decide, by decide⟩
  have perm : [last, first, middle].Perm [first, middle, last] := by decide
  obtain ⟨answers, pending⟩ := (edits_restore_draft base .standard).1 _ _ normal perm
  exact ⟨normal, answers, pending⟩

end Draft
end Spacing
