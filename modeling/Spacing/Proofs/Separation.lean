import Mathlib.Data.List.Perm.Basic
import Spacing.Proofs.Removal

/-! Submissions over separated stretches of base text commute. A submission sees the edits in its
stretch and the one that stops where the stretch starts, and it leaves one edit that covers them.
An end that exists is never inside the edit of another submission, so the edits keep apart as the
stretches do, and what one submission sees no other one changes. -/
namespace Spacing

open Segment

structure Replacement where
  start : Nat
  stop : Nat
  text : Text
  start_le_stop : start ≤ stop

namespace Replacement

def range (s : Replacement) : Range := ⟨.base s.start, .base s.stop⟩

def submitted (s : Replacement) : Draft.Submitted := ⟨s.range, s.text⟩

/-- A base character stands between the two stretches. -/
def Separate (s t : Replacement) : Prop := s.stop < t.start ∨ t.stop < s.start

theorem Separate.symm {s t : Replacement} (separate : s.Separate t) : t.Separate s :=
  Or.symm separate

end Replacement

namespace Draft

def answers (d : Draft) : List Submitted → List (Except Failure Range)
  | [] => []
  | s :: rest =>
    (d.submit s.selection s.text).result :: (d.submit s.selection s.text).draft.answers rest

variable {d : Draft}

theorem Fills.stop_of_range {t : Replacement} {f : Edit} (fills : d.Fills t.range t.text f) :
    f.stop = t.stop := fills.stop_eq

section Normal

variable (normal : d.IsNormal)
include normal

theorem Fills.lt_start_of_survives {t : Replacement} {f : Edit} (fills : d.Fills t.range t.text f)
    (valid : d.HasRange t.range) {o : Nat} (free : Survives d.pending.toList o)
    (before : o < t.start) : o < f.start := by
  rw [fills.start_eq]
  exact lt_lead_of_survives normal valid.1 free (Position.anchor_base_lt_base.2 before)

theorem Fills.apart {s t : Replacement} {e f : Edit} (first : d.Fills s.range s.text e)
    (second : d.Fills t.range t.text f) (here : d.HasRange s.range) (there : d.HasRange t.range)
    (separate : s.Separate t) : e.stop < f.start ∨ f.stop < e.start := by
  rw [first.stop_of_range, second.stop_of_range]
  -- The end of one stretch stands, so an edit joined on the left of the other cannot reach it.
  rcases separate with before | after
  · have free := ((hasPosition_base normal).1 here.2.1).2
    exact Or.inl (second.lt_start_of_survives normal there free before)
  · have free := ((hasPosition_base normal).1 there.2.1).2
    exact Or.inr (first.lt_start_of_survives normal here free after)

section Beside

variable {s t : Replacement} {e f : Edit} (fills : d.Fills t.range t.text f)
  (apart : e.stop < f.start ∨ f.stop < e.start) {o : Draft}
  (pending : o.pending.toList = d.changed e)
include fills apart pending

theorem between_beside :
    o.pending.between t.start t.stop = d.pending.between t.start t.stop := by
  have low := fills.start_le_of_base normal
  have high := fills.stop_of_range
  rw [Patch.between_eq, Patch.between_eq, pending]
  apply filter_changed_of_apart normal
  intro g inside
  rw [decide_eq_true_eq] at inside
  omega

theorem stoppingAt?_beside (after : o.IsNormal) :
    o.pending.stoppingAt? t.start = d.pending.stoppingAt? t.start := by
  have low := fills.start_le_of_base normal
  have high := fills.stop_of_range
  have order := t.start_le_stop
  have size := e.start_le_stop
  apply stoppingAt?_changed normal pending after
  · omega
  · intro g member touching
    -- An edit that stops at the start is a part of the edit that fills the stretch.
    have left : d.pending.stoppingAt? t.start = some g :=
      (Patch.stoppingAt?_eq_some_iff normal.apart).2 ⟨member, congrArg Nat.cast touching⟩
    have joined : f.start = g.start := by
      rw [fills.start_eq]
      exact (lead_base_offset t.start).trans (by rw [left, Option.elim_some])
    omega

theorem lead_beside (after : o.IsNormal) : o.lead t.range.start = d.lead t.range.start := by
  simp only [lead, Replacement.range, stoppingAt?_beside normal fills apart pending after]

theorem refusal?_beside (base : o.base = d.base) :
    o.refusal? t.range t.text = d.refusal? t.range t.text := by
  have same := between_beside normal fills apart pending
  have segments : o.segments t.range = d.segments t.range := by
    simp only [segments, Replacement.range, ofRange, across, opening, closing, Segment.inner, same,
      base]
  have swallowed : o.inside t.start t.stop none = d.inside t.start t.stop none := by
    rw [inside, inside, same]
  have objection : o.objection? t.range = d.objection? t.range := by
    simp only [objection?, Replacement.range]
    rw [crowded?, crowded?, swallowed]
  rw [refusal?, refusal?, segments, objection]

variable (base : o.base = d.base) (after : o.IsNormal) (valid : d.HasRange t.range)
include base after valid

theorem hasRange_beside (under : d.Fills s.range s.text e) (here : d.HasRange s.range) :
    o.HasRange t.range := by
  have low := fills.start_le_of_base normal
  have high := fills.stop_of_range
  have order := t.start_le_stop
  have stays : ∀ x, t.start ≤ x → x ≤ t.stop → d.HasPosition (.base x) →
      o.HasPosition (.base x) := by
    intro x first last held
    rw [hasPosition_base normal] at held
    rw [hasPosition_base after, base, pending, survives_changed normal here under]
    refine ⟨held.1, held.2, ?_⟩
    omega
  refine ⟨stays t.start (Nat.le_refl _) order valid.1, ?_, valid.2.2⟩
  exact stays t.stop order (Nat.le_refl _) valid.2.1

theorem result_beside (under : d.Fills s.range s.text e) (here : d.HasRange s.range)
    (clear : d.refusal? t.range t.text = none) :
    (o.submit t.range t.text).result = (d.submit t.range t.text).result := by
  have spans := hasRange_beside normal fills apart pending base after valid under here
  by_cases idle : t.range.start = t.range.stop ∧ t.text = []
  · obtain ⟨empty, nothing⟩ := idle
    rw [nothing, submit_of_idle spans empty, submit_of_idle valid empty]
  · have still := (refusal?_beside normal fills apart pending base).trans clear
    obtain ⟨c, first, alone, _⟩ := submit_of_clear valid normal clear idle
    obtain ⟨b, second, beside, _⟩ := submit_of_clear spans after still idle
    have lead := lead_beside normal fills apart pending after
    rw [alone, beside, first.landing_eq second lead rfl]

end Beside

section Pair

variable {s t : Replacement} {first second : Range} (separate : s.Separate t)
  (one : (d.submit s.range s.text).result = .ok first)
  (other : (d.submit t.range t.text).result = .ok second)
include separate one other

theorem result_submit_separate :
    ((d.submit s.range s.text).draft.submit t.range t.text).result = .ok second := by
  obtain ⟨here, clear⟩ := accepted_of_range one
  obtain ⟨there, open_to⟩ := accepted_of_range other
  obtain ⟨e, under, pending⟩ := submit_of_accepted normal here clear
  obtain ⟨f, fills, _⟩ := submit_of_accepted normal there open_to
  have apart := under.apart normal fills here there separate
  rw [← other]
  exact result_beside normal fills apart pending rfl (normal_submit normal s.range s.text) there
    under here open_to

theorem mem_submit_separate {e f : Edit} (under : d.Fills s.range s.text e)
    (fills : d.Fills t.range t.text f) {g : Edit} :
    g ∈ ((d.submit s.range s.text).draft.submit t.range t.text).draft.pending.toList ↔
      (g ∈ d.pending.toList ∧ (g.stop < e.start ∨ e.stop < g.start) ∧
        (g.stop < f.start ∨ f.stop < g.start)) ∨
      (g = e ∧ e.isVoid = false) ∨ (g = f ∧ f.isVoid = false) := by
  have after := normal_submit normal s.range s.text
  obtain ⟨here, clear⟩ := accepted_of_range one
  obtain ⟨there, _⟩ := accepted_of_range other
  obtain ⟨spans, still⟩ := accepted_of_range (result_submit_separate normal separate one other)
  have apart := under.apart normal fills here there separate
  obtain ⟨stored, again, pending⟩ := submit_of_accepted normal here clear
  obtain rfl : stored = e := under.unique again rfl rfl
  obtain ⟨beside, moved, last⟩ := submit_of_accepted after spans still
  have lead := lead_beside normal fills apart pending after
  obtain rfl : beside = f := fills.unique moved lead rfl
  rw [last, mem_changed, pending, mem_changed]
  constructor
  · rintro (⟨⟨held, behind⟩ | mine, away⟩ | new)
    · exact Or.inl ⟨held, behind, away⟩
    · exact Or.inr (Or.inl mine)
    · exact Or.inr (Or.inr new)
  · rintro (⟨held, behind, away⟩ | ⟨rfl, solid⟩ | new)
    · exact Or.inl ⟨Or.inl ⟨held, behind⟩, away⟩
    · exact Or.inl ⟨Or.inr ⟨rfl, solid⟩, apart⟩
    · exact Or.inr new

theorem submit_separate_comm :
    ((d.submit s.range s.text).draft.submit t.range t.text).draft =
      ((d.submit t.range t.text).draft.submit s.range s.text).draft := by
  obtain ⟨here, clear⟩ := accepted_of_range one
  obtain ⟨there, open_to⟩ := accepted_of_range other
  obtain ⟨e, under, _⟩ := submit_of_accepted normal here clear
  obtain ⟨f, fills, _⟩ := submit_of_accepted normal there open_to
  apply eq_of_pending
  · simp only [submit_base]
  · simp only [submit_config]
  · apply eq_of_ascending (Patch.ascending _) (Patch.ascending _)
    intro g
    rw [mem_submit_separate normal separate one other under fills,
      mem_submit_separate normal separate.symm other one fills under]
    apply or_congr
    · exact and_congr_right fun _ => and_comm
    · exact or_comm

end Pair

section Run

variable {answer : Replacement → Range}

theorem alone_submit_separate {s : Replacement} {rest : List Replacement}
    (separate : ∀ t ∈ rest, s.Separate t)
    (alone : ∀ t ∈ s :: rest, (d.submit t.range t.text).result = .ok (answer t)) :
    ∀ t ∈ rest,
      ((d.submit s.range s.text).draft.submit t.range t.text).result = .ok (answer t) := by
  intro t member
  exact result_submit_separate normal (separate t member) (alone s List.mem_cons_self)
    (alone t (List.mem_cons_of_mem s member))

theorem answers_of_separate {ss : List Replacement}
    (apart : ss.Pairwise Replacement.Separate)
    (alone : ∀ s ∈ ss, (d.submit s.range s.text).result = .ok (answer s)) :
    d.answers (ss.map Replacement.submitted) = ss.map fun s => .ok (answer s) := by
  induction ss generalizing d with
  | nil => rfl
  | cons s rest ih =>
    obtain ⟨separate, apart⟩ := List.pairwise_cons.1 apart
    have still := alone_submit_separate normal separate alone
    have after := ih (normal_submit normal s.range s.text) apart still
    rw [List.map_cons, List.map_cons, ← alone s List.mem_cons_self, ← after]
    rfl

theorem after_of_perm {ss ts : List Replacement} (perm : ts.Perm ss)
    (apart : ss.Pairwise Replacement.Separate)
    (alone : ∀ s ∈ ss, (d.submit s.range s.text).result = .ok (answer s)) :
    d.after (ts.map Replacement.submitted) = d.after (ss.map Replacement.submitted) := by
  -- Only neighbours are ever exchanged, in whatever draft the submissions before them have left.
  induction perm generalizing d with
  | nil => rfl
  | cons s perm ih =>
    obtain ⟨separate, apart⟩ := List.pairwise_cons.1 apart
    have still := alone_submit_separate normal separate alone
    exact ih (normal_submit normal s.range s.text) apart still
  | swap s t rest =>
    have separate := (List.pairwise_cons.1 apart).1 t List.mem_cons_self
    have one := alone s List.mem_cons_self
    have other := alone t (List.mem_cons_of_mem s List.mem_cons_self)
    have same := submit_separate_comm normal separate one other
    exact congrArg (fun o : Draft => o.after (rest.map Replacement.submitted)) same.symm
  | trans first second before after =>
    have between := (second.pairwise_iff Replacement.Separate.symm).2 apart
    have each := fun s member => alone s (second.mem_iff.1 member)
    exact (before normal between each).trans (after normal apart alone)

end Run

end Normal

/-- If submissions over separated stretches are taken one by one, they are taken in every order and
with the same answers, and every order leads to the same draft. -/
theorem separated_submissions_commute {base : Text} {config : Config}
    (reached : Reachable base config d) {ss ts : List Replacement} {answer : Replacement → Range}
    (apart : ss.Pairwise Replacement.Separate)
    (alone : ∀ s ∈ ss, (d.submit s.range s.text).result = .ok (answer s)) (perm : ts.Perm ss) :
    d.answers (ts.map Replacement.submitted) = (ts.map fun s => .ok (answer s)) ∧
      d.after (ts.map Replacement.submitted) = d.after (ss.map Replacement.submitted) := by
  have normal := reached.normal
  constructor
  · apply answers_of_separate normal
    · exact (perm.pairwise_iff Replacement.Separate.symm).2 apart
    · intro s member
      exact alone s (perm.mem_iff.1 member)
  · exact after_of_perm normal perm apart alone

theorem separated_submissions_commute_joined :
    let e : Edit := ⟨1, 3, ['\n', '\t'], by decide, by decide⟩
    let f : Edit := ⟨4, 6, ['\n'], by decide, by decide⟩
    let d := (ofBase ['a', ' ', ' ', ' ', ' ', ' ', 'b'] .standard).after
      [⟨⟨some (.base 1), some (.base 2)⟩, ['\n']⟩, ⟨⟨some (.base 5), some (.base 5)⟩, ['\t']⟩]
    let s : Replacement := ⟨2, 3, ['\t'], by decide⟩
    let t : Replacement := ⟨4, 6, ['\n'], by decide⟩
    s.Separate t ∧
      (d.submit s.range s.text).result = .ok ⟨.within e 1, .base 3⟩ ∧
      (d.submit t.range t.text).result = .ok ⟨.within f 0, .base 6⟩ ∧
      d.answers [t.submitted, s.submitted] =
        [.ok ⟨.within f 0, .base 6⟩, .ok ⟨.within e 1, .base 3⟩] ∧
      d.after [t.submitted, s.submitted] = d.after [s.submitted, t.submitted] := by
  intro e f d s t
  have separate : s.Separate t := Or.inl (by decide)
  have joined : (d.submit s.range s.text).result = .ok ⟨.within e 1, .base 3⟩ :=
    Submission.eq_ok_of_toOption (by decide +kernel)
  have swallowed : (d.submit t.range t.text).result = .ok ⟨.within f 0, .base 6⟩ :=
    Submission.eq_ok_of_toOption (by decide +kernel)
  let answer : Replacement → Range := fun r =>
    if r.start = 2 then ⟨.within e 1, .base 3⟩ else ⟨.within f 0, .base 6⟩
  have alone : ∀ r ∈ [s, t], (d.submit r.range r.text).result = .ok (answer r) := by
    intro r member
    rcases List.mem_pair.1 member with rfl | rfl
    · exact joined
    · exact swallowed
  obtain ⟨answers, same⟩ := separated_submissions_commute (Reachable.start.after _ :
    Reachable ['a', ' ', ' ', ' ', ' ', ' ', 'b'] .standard d)
    (List.pairwise_pair.2 separate) alone (List.Perm.swap s t [])
  exact ⟨separate, joined, swallowed, answers, same⟩

end Draft
end Spacing
