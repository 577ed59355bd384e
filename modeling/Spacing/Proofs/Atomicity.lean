import Spacing.Proofs.NormalForm
import Spacing.Proofs.Resolution

/-! A submission is carried out in full or not at all. The edits are taken out one by one and the
new one put in with nothing to undo it, so all rests on the plan: once a change is planned none of
these steps can fail, and until then nothing has been touched. -/
namespace Spacing.Draft

open Submission

variable {d : Draft}

theorem submit_error (normal : d.IsNormal) {s : Selection} {text : Text} {failure : Failure}
    (failed : (d.submit s text).result = .error failure) :
    (∃ reason, failure = .rejected reason) ∨ d.Unresolved s failure := by
  cases resolved : d.resolve s with
  | error fault =>
    rw [submit_of_unresolved resolved] at failed
    obtain rfl : fault = failure := Except.error.inj failed
    exact .inr (resolve_eq_error_iff.1 resolved)
  | ok r =>
    obtain ⟨rfl, valid⟩ := resolve_eq_ok.1 resolved
    cases refusal : d.refusal? r text with
    | some reason =>
      rw [submit_of_refusal valid refusal] at failed
      exact .inl ⟨reason, (Except.error.inj failed).symm⟩
    | none =>
      by_cases busy : r.start = r.stop ∧ text = []
      · obtain ⟨empty, rfl⟩ := busy
        simp [submit_of_idle valid empty] at failed
      · obtain ⟨c, _, result, _⟩ := submit_of_clear valid normal refusal busy
        simp [result] at failed

theorem submit_error_iff (normal : d.IsNormal) {s : Selection} {text : Text} {failure : Failure}
    (other : ∀ reason, failure ≠ .rejected reason) :
    (d.submit s text).result = .error failure ↔ d.Unresolved s failure := by
  constructor
  · intro failed
    rcases submit_error normal failed with ⟨reason, rejected⟩ | unresolved
    · exact absurd rejected (other reason)
    · exact unresolved
  · intro unresolved
    rw [submit_of_unresolved (resolve_of_unresolved unresolved)]

section Planned

variable (normal : d.IsNormal) {r : Range} {text : Text} (valid : d.HasRange r)
  (blank : text.IsBlank) {p q : Progress}
include normal valid blank

theorem run_change_error {failure : Failure}
    (failed : (d.change r text).run p = (.error failure, q)) :
    ∃ reason, failure = .rejected reason ∧ q = p := by
  cases objection : d.objection? r with
  | some reason =>
    rw [run_change_of_objection objection] at failed
    obtain ⟨rejected, rfl⟩ := Prod.mk.inj failed
    exact ⟨reason, (Except.error.inj rejected).symm, rfl⟩
  | none =>
    obtain ⟨c, _, run⟩ := run_change normal valid blank objection
    rw [run] at failed
    cases (Prod.mk.inj failed).1

theorem suits_of_run_change {c : Change} (planned : (d.change r text).run p = (.ok c, q)) :
    d.Suits r text c ∧ q.pending = p.pending := by
  cases objection : d.objection? r with
  | some reason =>
    rw [run_change_of_objection objection] at planned
    cases (Prod.mk.inj planned).1
  | none =>
    obtain ⟨b, suits, run⟩ := run_change normal valid blank objection
    rw [run] at planned
    obtain ⟨made, rfl⟩ := Prod.mk.inj planned
    obtain rfl : b = c := Except.ok.inj made
    exact ⟨suits, rfl⟩

end Planned

end Spacing.Draft
