import Spacing.Proofs.Change

namespace Spacing

open Submission

/-- Where the submitted text is once the change is stored. -/
def Change.landing (c : Change) (length : Nat) : Range :=
  let stop : Position :=
    if c.shift + length < c.edit.text.length then .within c.edit (c.shift + length)
    else .base c.edit.stop
  if c.edit.text.isEmpty then ⟨stop, stop⟩ else ⟨.within c.edit c.shift, stop⟩

def Change.record (c : Change) : Event :=
  if c.edit.isVoid then .collapsed c.edit.start else .stored c.edit

theorem run_store {c : Change} {p : Progress} (distinct : c.removed.Nodup)
    (held : ∀ e ∈ c.removed, e ∈ p.pending.toList)
    (free : ∀ e ∈ p.pending.toList, e ∉ c.removed → e.start ≠ c.edit.start)
    (bound : c.shift ≤ c.edit.text.length) (length : Nat) :
    ∃ q, (c.store length).run p = (.ok (c.landing length), ⟨q, p.journal ++ [c.record]⟩) ∧
      ∀ e, e ∈ q.toList ↔
        e ∈ p.pending.toList ∧ e ∉ c.removed ∨ e = c.edit ∧ c.edit.isVoid = false := by
  obtain ⟨rest, erased, left⟩ := run_forM_erase distinct held
  by_cases void : c.edit.isVoid = true
  · have empty : c.edit.text = [] := by
      simp only [Edit.isVoid, Bool.and_eq_true, List.isEmpty_iff] at void
      exact void.2
    refine ⟨rest, ?_, fun e => by simp [left e, void]⟩
    simp only [Change.store, List.forM_eq_forM, run_bind, erased, if_pos void, run_note, run_pure,
      Change.landing, Change.record, empty, List.length_nil, Nat.not_lt_zero, List.isEmpty_nil,
      if_true, if_false]
  · have vacant : ∀ e ∈ rest.toList, e.start ≠ c.edit.start := fun e member =>
      free e ((left e).1 member).1 ((left e).1 member).2
    obtain ⟨q, taken, members⟩ := Patch.insert_eq_ok vacant
    refine ⟨q, ?_, fun e => ?_⟩
    · simp only [Change.store, List.forM_eq_forM, run_bind, erased, if_neg void, run_note,
        run_insert (p := ⟨rest, p.journal⟩) taken, Change.landing, Change.record]
      by_cases short : c.shift + length < c.edit.text.length
      · have nonempty : ¬ c.edit.text.isEmpty = true := fun empty => by
          simp [List.isEmpty_iff.1 empty] at short
        simp only [if_pos short, Position.inEdit_eq_ok (Nat.le_of_lt short), if_neg nonempty,
          Position.inEdit_eq_ok bound, mapError_ok, run_bind, run_ok, run_pure]
      · by_cases empty : c.edit.text.isEmpty = true
        · simp only [if_neg short, if_pos empty, run_bind, run_pure]
        · simp only [if_neg short, if_neg empty, Position.inEdit_eq_ok bound, mapError_ok,
            run_bind, run_ok, run_pure]
    · rw [members e, left e, or_comm]
      simp [void]

namespace Draft

variable {d : Draft}

/-- The pending edits with a new one among those that keep apart from it. -/
def changed (d : Draft) (e : Edit) : List Edit :=
  (d.pending.toList.filter fun f => f.stop < e.start) ++ (if e.isVoid then [] else [e]) ++
    d.pending.toList.filter fun f => e.stop < f.start

theorem mem_changed {e f : Edit} :
    f ∈ d.changed e ↔ f ∈ d.pending.toList ∧ (f.stop < e.start ∨ e.stop < f.start) ∨
      f = e ∧ e.isVoid = false := by
  have single : f ∈ (if e.isVoid then [] else [e]) ↔ f = e ∧ e.isVoid = false := by
    cases e.isVoid <;> simp
  simp only [changed, List.mem_append, List.mem_filter, decide_eq_true_eq, single, and_or_left]
  exact or_right_comm

variable (normal : d.IsNormal)
include normal

theorem apart_changed (e : Edit) : (d.changed e).Pairwise fun a b => a.stop < b.start := by
  have order := e.start_le_stop
  have single : (if e.isVoid then [] else [e]).Pairwise fun a b : Edit => a.stop < b.start := by
    cases e.isVoid <;> simp
  refine List.pairwise_append.2 ⟨List.pairwise_append.2 ⟨normal.apart.filter _, single, ?_⟩,
    normal.apart.filter _, ?_⟩
  · intro a first b second
    have low : a.stop < e.start := by simpa using (List.mem_filter.1 first).2
    split at second
    · simp at second
    · rw [List.mem_singleton.1 second]
      exact low
  · intro a first b second
    have high : e.stop < b.start := by simpa using (List.mem_filter.1 second).2
    rcases List.mem_append.1 first with behind | new
    · have low : a.stop < e.start := by simpa using (List.mem_filter.1 behind).2
      omega
    · split at new
      · simp at new
      · rw [List.mem_singleton.1 new]
        exact high

variable {r : Range} {text : Text} {c : Change} (valid : d.HasRange r) (suits : d.Suits r text c)
include valid suits

theorem Suits.kept_iff {f : Edit} (member : f ∈ d.pending.toList) :
    f ∉ c.removed ↔ f.stop < c.edit.start ∨ c.edit.stop < f.start := by
  have size := f.start_le_stop
  have order := c.edit.start_le_stop
  have lead := behind_or_ahead_lead normal valid.1 member
  have trail := behind_or_ahead_trail normal valid.2.1 member
  rw [← suits.start_eq] at lead
  rw [← suits.stop_eq] at trail
  rw [suits.mem_removed, and_iff_right member]
  omega

theorem Suits.start_ne {e : Edit} (member : e ∈ d.pending.toList) (kept : e ∉ c.removed) :
    e.start ≠ c.edit.start := by
  have size := e.start_le_stop
  have order := c.edit.start_le_stop
  rcases (suits.kept_iff normal valid member).1 kept with behind | ahead
  · omega
  · omega

/-- A change that suits a valid range is stored among the edits it keeps apart from. -/
theorem Suits.run_store (length : Nat) (journal : List Event) :
    ∃ q, (c.store length).run ⟨d.pending, journal⟩ =
        (.ok (c.landing length), ⟨q, journal ++ [c.record]⟩) ∧
      q.toList = d.changed c.edit := by
  have bound : c.shift ≤ c.edit.text.length := by
    simp only [suits.shift_eq, suits.text_eq, List.length_append]
    omega
  obtain ⟨q, run, members⟩ := @Spacing.run_store c ⟨d.pending, journal⟩ suits.distinct
    (fun e removed => ((suits.mem_removed e).1 removed).1)
    (fun e member kept => suits.start_ne normal valid member kept) bound length
  refine ⟨q, run, eq_of_ascending q.ascending (ascending_of_apart (apart_changed normal _)) ?_⟩
  intro e
  rw [members e, mem_changed]
  exact or_congr_left (and_congr_right fun member => suits.kept_iff normal valid member)

end Draft
end Spacing
