import Spacing.Proofs.Acceptance
import Spacing.Proofs.Verdict

namespace Spacing

/-- Edits that keep apart replace as many base characters as there are offsets under them. -/
theorem removedBy_eq_countP {start stop : Nat} {es : List Edit} (placed : Placed start stop es) :
    removedBy es = (List.range' start (stop - start)).countP fun o => ¬ Survives es o := by
  induction es generalizing start with
  | nil => simp [removedBy, Survives]
  | cons e rest ih =>
    have low := placed.1
    have size := e.start_le_stop
    have high := placed.2.le
    have parts : List.range' start (stop - start) = List.range' start (e.start - start) ++
        (List.range' e.start (e.stop - e.start) ++ List.range' e.stop (stop - e.stop)) := by
      have first : start + (e.start - start) = e.start := by omega
      have second : e.start + (e.stop - e.start) = e.stop := by omega
      have whole : stop - start = e.start - start + (e.stop - e.start + (stop - e.stop)) := by omega
      rw [whole, ← List.range'_append_1, ← List.range'_append_1, first, second]
    have gap : (List.range' start (e.start - start)).countP
        (fun o => ¬ Survives (e :: rest) o) = 0 := by
      rw [List.countP_eq_zero]
      intro o member
      rw [List.mem_range'_1] at member
      rw [decide_eq_true_eq, not_not]
      intro f inside
      rcases List.mem_cons.1 inside with rfl | later
      · omega
      · exact Survives.of_le placed.2 (by omega) f later
    have under : (List.range' e.start (e.stop - e.start)).countP
        (fun o => ¬ Survives (e :: rest) o) = e.stop - e.start := by
      rw [List.countP_eq_length.2, List.length_range']
      intro o member
      rw [List.mem_range'_1] at member
      rw [decide_eq_true_eq]
      intro free
      exact free e (by simp) (by omega)
    have beyond : (List.range' e.stop (stop - e.stop)).countP
        (fun o => ¬ Survives (e :: rest) o) = removedBy rest := by
      rw [ih placed.2]
      apply List.countP_congr
      intro o member
      rw [List.mem_range'_1] at member
      have past : ¬ (e.start ≤ o ∧ o < e.stop) := by omega
      simp [Survives, past]
    rw [parts, List.countP_append, List.countP_append, gap, under, beyond, removedBy]
    omega

namespace Draft

variable {d : Draft}

section Normal

variable (normal : d.IsNormal)
include normal

theorem summary_removed : d.summary.removed =
    (List.range d.base.length).countP fun o => ¬ d.HasPosition (.base o) := by
  have count : d.summary.removed = removedBy d.pending.toList := rfl
  rw [count, removedBy_eq_countP normal.placed, Nat.sub_zero, List.range_eq_range']
  apply List.countP_congr
  intro o member
  rw [List.mem_range'_1] at member
  have inside : o ≤ d.base.length := by omega
  rw [decide_eq_true_eq, decide_eq_true_eq, hasPosition_base normal, and_iff_right inside]

section Filled

variable {r : Range} {text : Text} {e : Edit} (valid : d.HasRange r) (fills : d.Fills r text e)
  {o : Nat}
include valid fills

theorem survives_changed : Survives (d.changed e) o ↔
    Survives d.pending.toList o ∧ ¬ (e.start ≤ o ∧ o < e.stop) := by
  have order := e.start_le_stop
  have present : e.start < e.stop → e ∈ d.changed e := by
    intro filled
    have solid : e.isVoid = false := by
      simp [Edit.isVoid, Edit.isInsertion, Nat.ne_of_lt filled]
    exact mem_changed.2 (Or.inr ⟨rfl, solid⟩)
  constructor
  · intro free
    constructor
    · intro f member covered
      rcases fills.behind_or_within_or_ahead normal valid member with behind | within | ahead
      · exact free f (mem_changed.2 (Or.inl ⟨member, Or.inl behind⟩)) covered
      · exact free e (present (by omega)) (by omega)
      · exact free f (mem_changed.2 (Or.inl ⟨member, Or.inr ahead⟩)) covered
    · intro covered
      exact free e (present (by omega)) covered
  · rintro ⟨free, clear⟩ f member
    rcases mem_changed.1 member with ⟨kept, _⟩ | ⟨rfl, _⟩
    · exact free f kept
    · exact clear

theorem covered_iff (free : Survives d.pending.toList o) : e.start ≤ o ∧ o < e.stop ↔
    r.start.anchor ≤ (Position.base o).anchor ∧ (Position.base o).anchor < r.stop.anchor := by
  rw [fills.start_eq, fills.stop_eq, Anchor.le_iff_not_lt]
  constructor
  · rintro ⟨low, high⟩
    constructor
    · intro before
      have below := lt_lead_of_survives normal valid.1 free before
      omega
    · by_contra after
      have above := trail_le_of_survives valid.2.1 free after
      omega
  · rintro ⟨after, before⟩
    constructor
    · cases start : r.start with
      | base a =>
        rw [start, Position.anchor_base_lt_base] at after
        have low := lead_base_le normal a
        omega
      | within f k =>
        rw [start, Position.anchor_base_lt_within] at after
        simp only [lead]
        omega
    · cases stop : r.stop with
      | base b => simpa [stop, Position.trail] using before
      | within g m =>
        rw [stop, Position.anchor_base_lt_within] at before
        have size := g.start_le_stop
        simp only [Position.trail]
        omega

end Filled

theorem hasPosition_base_submit {r : Range} {text : Text} (valid : d.HasRange r)
    (clear : d.refusal? r text = none) {o : Nat} :
    (d.submit r text).draft.HasPosition (.base o) ↔ d.HasPosition (.base o) ∧
      ¬ (r.start.anchor ≤ (Position.base o).anchor ∧
        (Position.base o).anchor < r.stop.anchor) := by
  obtain ⟨e, fills, pending⟩ := submit_of_accepted normal valid clear
  rw [hasPosition_base (normal_submit normal r text), hasPosition_base normal, pending,
    survives_changed normal valid fills, submit_base, and_assoc]
  refine and_congr_right fun _ => and_congr_right fun free => ?_
  rw [covered_iff normal valid fills free]

theorem gone_submit {o : Nat} (gone : ¬ d.HasPosition (.base o)) (s : Selection) (text : Text) :
    ¬ (d.submit s text).draft.HasPosition (.base o) := by
  cases result : (d.submit s text).result with
  | error failure =>
    rw [submit_of_error normal result]
    exact gone
  | ok answer =>
    obtain ⟨r, rfl, valid, clear⟩ := accepted_of_taken result
    intro back
    exact gone ((hasPosition_base_submit normal valid clear).1 back).1

theorem gone_after {o : Nat} (gone : ¬ d.HasPosition (.base o)) (submissions : List Submitted) :
    ¬ (d.after submissions).HasPosition (.base o) := by
  induction submissions generalizing d with
  | nil => exact gone
  | cons s rest ih =>
    exact ih (normal_submit normal s.selection s.text) (gone_submit normal gone s.selection s.text)

theorem removed_le_after {base : Text} {config : Config} (reached : Reachable base config d)
    (submissions : List Submitted) : d.summary.removed ≤ (d.after submissions).summary.removed := by
  have later := reached.after submissions
  rw [summary_removed normal, summary_removed later.normal, reached.base_eq, later.base_eq]
  apply List.countP_mono_left
  intro o _ gone
  rw [decide_eq_true_eq] at gone ⊢
  exact gone_after normal gone submissions

end Normal

/-- A submission takes away the base positions between the ends of its range and gives none back,
so over any run they only disappear and the number of replaced base characters only grows. -/
theorem base_positions_only_disappear {base : Text} {config : Config}
    (reached : Reachable base config d) :
    (∀ s text answer, (d.submit s text).result = .ok answer → ∃ r : Range, s = r.toSelection ∧
      (∀ o, d.HasPosition (.base o) → (¬ (d.submit s text).draft.HasPosition (.base o) ↔
        r.start.anchor ≤ (Position.base o).anchor ∧
          (Position.base o).anchor < r.stop.anchor)) ∧
      ∀ o, ¬ d.HasPosition (.base o) → ¬ (d.submit s text).draft.HasPosition (.base o)) ∧
    ∀ submissions,
      (∀ o, ¬ d.HasPosition (.base o) → ¬ (d.after submissions).HasPosition (.base o)) ∧
      d.summary.removed ≤ (d.after submissions).summary.removed := by
  have normal := reached.normal
  constructor
  · intro s text answer taken
    obtain ⟨r, rfl, valid, clear⟩ := accepted_of_taken taken
    refine ⟨r, rfl, ?_, ?_⟩
    · intro o exists_before
      rw [hasPosition_base_submit normal valid clear, and_iff_right exists_before, not_not]
    · intro o gone
      exact gone_submit normal gone r text
  · intro submissions
    constructor
    · intro o gone
      exact gone_after normal gone submissions
    · exact removed_le_after normal reached submissions

theorem base_positions_only_disappear_joined :
    let e : Edit := ⟨1, 4, ['\n'], by decide, by decide⟩
    let d := (ofBase ['a', ' ', ' ', ' ', 'b'] .standard).after
      [⟨⟨some (.base 1), some (.base 2)⟩, ['\n']⟩]
    d.HasPosition (.base 3) ∧
      ¬ (d.submit ⟨some (.base 2), some (.base 4)⟩ []).draft.HasPosition (.base 3) ∧
      ¬ d.HasPosition (.base 1) ∧
      ¬ (d.after [⟨⟨some (.base 2), some (.base 4)⟩, []⟩,
        ⟨⟨some (.within e 1), some (.within e 1)⟩, ['\t']⟩]).HasPosition (.base 1) := by
  intro e d
  have all := base_positions_only_disappear (Reachable.start.after _ :
    Reachable ['a', ' ', ' ', ' ', 'b'] .standard d)
  obtain ⟨answer, taken⟩ : ∃ answer,
      (d.submit ⟨some (.base 2), some (.base 4)⟩ []).result = .ok answer :=
    Submission.exists_ok_of_isOk (by decide +kernel)
  obtain ⟨r, asked, lost, _⟩ := all.1 _ _ answer taken
  obtain rfl : ⟨.base 2, .base 4⟩ = r := Range.toSelection_inj.1 asked
  have present : d.HasPosition (.base 3) := by decide +kernel
  have gone : ¬ d.HasPosition (.base 1) := by decide +kernel
  exact ⟨present, (lost 3 present).2 (by decide), gone, (all.2 _).1 1 gone⟩

end Draft
end Spacing
