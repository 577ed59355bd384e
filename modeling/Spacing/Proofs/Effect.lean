import Spacing.Draft.History
import Spacing.Proofs.Store

namespace Spacing

open Segment Submission

namespace Draft

variable {d : Draft}

theorem resolve_eq_ok {s : Selection} {r : Range} :
    d.resolve s = .ok r ↔ s = r.toSelection ∧ d.HasRange r := by
  constructor
  · intro resolved
    obtain ⟨start, stop⟩ := s
    cases start with
    | none => simp [resolve, locate, bind, Except.bind] at resolved
    | some p =>
      cases stop with
      | none =>
        cases problem : d.problem? p <;>
          simp [resolve, locate, bind, Except.bind, problem] at resolved
      | some q =>
        obtain ⟨rfl, valid⟩ := (@resolve_eq_ok_iff d ⟨p, q⟩ r).1 resolved
        exact ⟨rfl, valid⟩
  · rintro ⟨rfl, valid⟩
    exact resolve_eq_ok_iff.2 ⟨rfl, valid⟩

theorem count_eq_zero {segments : List Segment} :
    Segment.count segments (fun c => !isBlank c) = 0 ↔ Text.IsBlank (textOf segments) := by
  rw [count_eq_countP, List.countP_eq_zero]
  simp [Text.IsBlank]

/-- Why a submission over a valid range is refused, the first reason found. -/
def refusal? (d : Draft) (r : Range) (text : Text) : Option Rejection :=
  if ¬ text.IsBlank then some (.notBlank text)
  else if r.start = r.stop ∧ text = [] then none
  else if ¬ Text.IsBlank (textOf (d.segments r)) then some (.coversNonBlank r)
  else d.objection? r

theorem refusal?_eq_none_iff {r : Range} {text : Text} (busy : ¬ (r.start = r.stop ∧ text = [])) :
    d.refusal? r text = none ↔
      text.IsBlank ∧ Text.IsBlank (textOf (d.segments r)) ∧ d.objection? r = none := by
  by_cases blank : text.IsBlank
  · by_cases covered : Text.IsBlank (textOf (d.segments r))
    · simp [refusal?, blank, busy, covered]
    · simp [refusal?, blank, busy, covered]
  · simp [refusal?, blank]

theorem submit_of_run {s : Selection} {text : Text} {answer : Except Failure Range}
    (run : ∀ p, (d.attempt s text).run p = (answer, p)) :
    d.submit s text = ⟨answer, d, .submitted s text :: closingEvents answer⟩ := by
  simp only [submit, run]
  rfl

theorem submit_of_unresolved {s : Selection} {failure : Failure}
    (unresolved : d.resolve s = .error failure) (text : Text) :
    d.submit s text =
      ⟨.error failure, d, .submitted s text :: closingEvents (.error failure)⟩ :=
  submit_of_run fun p => by simp only [attempt, unresolved, run_bind, run_error]

section Resolved

variable {r : Range} {text : Text} (valid : d.HasRange r)
include valid

theorem run_attempt (p : Progress) :
    (d.attempt r text).run p =
      match d.refusal? r text with
      | some reason => (.error (.rejected reason), p)
      | none =>
        if r.start = r.stop ∧ text = [] then (.ok r, p)
        else (d.change r text >>= fun c => c.store text.length).run p := by
  have resolved : d.resolve r = .ok r := resolve_eq_ok.2 ⟨rfl, valid⟩
  have idle : (r.isEmpty && text.isEmpty) = true ↔ r.start = r.stop ∧ text = [] := by
    simp [Range.isEmpty]
  have uncounted : 0 < Segment.count (d.segments r) (fun c => !isBlank c) ↔
      ¬ Text.IsBlank (textOf (d.segments r)) := by
    rw [Nat.pos_iff_ne_zero, ne_eq, count_eq_zero]
  simp only [attempt, resolved, run_bind, run_ok, idle, uncounted, refusal?]
  by_cases blank : text.IsBlank
  · by_cases nothing : r.start = r.stop ∧ text = []
    · simp only [blank, not_true, if_false, if_pos nothing, run_pure]
    · by_cases covered : Text.IsBlank (textOf (d.segments r))
      · simp only [blank, covered, not_true, if_false, if_neg nothing, run_bind]
        cases objection : d.objection? r with
        | some reason => simp only [run_change_of_objection objection]
        | none => rfl
      · simp only [blank, covered, not_true, not_false_iff, if_false, if_true, if_neg nothing,
          run_reject]
  · simp only [blank, not_false_iff, if_true, run_reject]

theorem submit_of_refusal {reason : Rejection} (found : d.refusal? r text = some reason) :
    d.submit r text =
      ⟨.error (.rejected reason), d, [.submitted r text, .refused reason]⟩ :=
  submit_of_run fun p => by simp only [run_attempt valid, found]

theorem submit_of_idle (empty : r.start = r.stop) :
    d.submit r [] = ⟨.ok r, d, [.submitted r []]⟩ :=
  submit_of_run fun p => by simp [run_attempt valid, refusal?, empty]

theorem exists_plan (normal : d.IsNormal) (clear : d.refusal? r text = none)
    (busy : ¬ (r.start = r.stop ∧ text = [])) :
    ∃ c q, d.Suits r text c ∧ q.toList = d.changed c.edit ∧
      (d.change r text).run ⟨d.pending, [.submitted r text]⟩ =
        (.ok c, ⟨d.pending, .submitted r text :: d.encounters r⟩) ∧
      (c.store text.length).run ⟨d.pending, .submitted r text :: d.encounters r⟩ =
        (.ok (c.landing text.length), ⟨q, .submitted r text :: d.encounters r ++ [c.record]⟩) ∧
      d.submit r text = ⟨.ok (c.landing text.length), { d with pending := q },
        .submitted r text :: d.encounters r ++ [c.record]⟩ := by
  obtain ⟨blank, _, unopposed⟩ := (refusal?_eq_none_iff busy).1 clear
  obtain ⟨c, suits, changes⟩ := run_change normal valid blank unopposed
  obtain ⟨q, stores, pending⟩ := suits.run_store normal valid text.length
    (.submitted r text :: d.encounters r)
  have run : (d.attempt r text).run ⟨d.pending, [.submitted r text]⟩ =
      (.ok (c.landing text.length), ⟨q, .submitted r text :: d.encounters r ++ [c.record]⟩) := by
    simp only [run_attempt valid, clear, if_neg busy, run_bind, changes]
    exact stores
  refine ⟨c, q, suits, pending, changes _, stores, ?_⟩
  simp [submit, run, closingEvents]

theorem submit_of_clear (normal : d.IsNormal) (clear : d.refusal? r text = none)
    (busy : ¬ (r.start = r.stop ∧ text = [])) :
    ∃ c, d.Suits r text c ∧ (d.submit r text).result = .ok (c.landing text.length) ∧
      (d.submit r text).draft.pending.toList = d.changed c.edit ∧
      (d.submit r text).journal = .submitted r text :: d.encounters r ++ [c.record] := by
  obtain ⟨c, q, suits, pending, _, _, whole⟩ := exists_plan valid normal clear busy
  rw [whole]
  exact ⟨c, suits, rfl, pending, rfl⟩

end Resolved

/-- What a submission does to a draft. -/
inductive Effect (d : Draft) (s : Selection) (text : Text) (o : Outcome) : Prop
  | refused (failure : Failure) (result : o.result = .error failure) (same : o.draft = d)
  | idle (r : Range) (asked : s = r.toSelection) (valid : d.HasRange r)
      (empty : r.start = r.stop) (nothing : text = []) (result : o.result = .ok r)
      (same : o.draft = d)
  | stored (r : Range) (c : Change) (asked : s = r.toSelection) (valid : d.HasRange r)
      (covered : Text.IsBlank (textOf (d.segments r))) (suits : d.Suits r text c)
      (result : o.result = .ok (c.landing text.length))
      (pending : o.draft.pending.toList = d.changed c.edit)

theorem submit_effect (normal : d.IsNormal) (s : Selection) (text : Text) :
    Effect d s text (d.submit s text) := by
  cases resolved : d.resolve s with
  | error failure =>
    rw [submit_of_unresolved resolved]
    exact .refused failure rfl rfl
  | ok r =>
    obtain ⟨rfl, valid⟩ := resolve_eq_ok.1 resolved
    cases refusal : d.refusal? r text with
    | some reason =>
      rw [submit_of_refusal valid refusal]
      exact .refused (.rejected reason) rfl rfl
    | none =>
      by_cases busy : r.start = r.stop ∧ text = []
      · obtain ⟨empty, rfl⟩ := busy
        rw [submit_of_idle valid empty]
        exact .idle r rfl valid empty rfl rfl rfl
      · obtain ⟨c, suits, result, pending, _⟩ := submit_of_clear valid normal refusal busy
        have covered := ((refusal?_eq_none_iff busy).1 refusal).2.1
        exact .stored r c rfl valid covered suits result pending

theorem submit_of_error (normal : d.IsNormal) {s : Selection} {text : Text} {failure : Failure}
    (refused : (d.submit s text).result = .error failure) : (d.submit s text).draft = d := by
  cases submit_effect normal s text with
  | refused _ _ same => exact same
  | idle r asked valid empty nothing result same => simp [result] at refused
  | stored r c asked valid covered suits result pending => simp [result] at refused

end Draft
end Spacing
