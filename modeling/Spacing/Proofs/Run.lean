import Spacing.Draft.Submission
import Spacing.Proofs.Patch

namespace Spacing

theorem Edit.of_eq_ok {start stop : Nat} {text : Text} (ordered : start ≤ stop)
    (blank : text.IsBlank) : Edit.of start stop text = .ok ⟨start, stop, text, ordered, blank⟩ := by
  have positive : ¬ (start : Int) < 0 := by omega
  have forward : ¬ (stop : Int) < start := by omega
  simp [Edit.of, positive, forward, blank]

theorem Edit.join_eq_ok {a b : Edit} (adjacent : a.stop = b.start) :
    ∃ e, a.join b = .ok e ∧ e.start = a.start ∧ e.stop = b.stop ∧ e.text = a.text ++ b.text := by
  rw [Edit.join, dif_pos adjacent]
  exact ⟨_, rfl, rfl, rfl, rfl⟩

theorem Position.inBase_eq_ok (o : Nat) : Position.inBase o = .ok (.base o) := by
  simp [Position.inBase]

theorem Position.inEdit_eq_ok {e : Edit} {k : Nat} (bound : k ≤ e.text.length) :
    Position.inEdit e k = .ok (.within e k) := by
  simp [Position.inEdit, bound]

namespace Submission

variable {α β : Type}

@[simp] theorem mapError_ok {ε δ : Type} (f : ε → δ) (a : α) :
    (Except.ok a : Except ε α).mapError f = .ok a := rfl

@[simp] theorem run_pure (a : α) (p : Progress) : (pure a : Submission α).run p = (.ok a, p) := rfl

@[simp] theorem run_note (event : Event) (p : Progress) :
    (note event).run p = (.ok (), ⟨p.pending, p.journal ++ [event]⟩) := rfl

@[simp] theorem run_reject (reason : Rejection) (p : Progress) :
    (reject reason : Submission α).run p = (.error (.rejected reason), p) := rfl

@[simp] theorem run_bind (x : Submission α) (f : α → Submission β) (p : Progress) :
    (x >>= f).run p =
      match x.run p with
      | (.ok a, q) => (f a).run q
      | (.error failure, q) => (.error failure, q) := by
  rw [ExceptT.run_bind]
  rcases first : x.run p with ⟨answer, q⟩
  cases answer with
  | ok a => simp only [bind, StateT.bind, first]
  | error failure => simp only [bind, StateT.bind, first]; rfl

@[simp] theorem run_ok (a : α) (p : Progress) :
    (liftM (Except.ok a : Except Failure α) : Submission α).run p = (.ok a, p) := rfl

@[simp] theorem run_error (failure : Failure) (p : Progress) :
    (liftM (Except.error failure : Except Failure α) : Submission α).run p =
      (.error failure, p) := rfl

@[simp] theorem run_get (p : Progress) : (get : Submission Progress).run p = (.ok p, p) := rfl

@[simp] theorem run_modify (f : Progress → Progress) (p : Progress) :
    (modify f : Submission Unit).run p = (.ok (), f p) := rfl

theorem exists_ok_of_isOk {ε : Type} {x : Except ε α} (ok : x.isOk = true) : ∃ a, x = .ok a := by
  cases x with
  | error failure => exact absurd ok Bool.false_ne_true
  | ok a => exact ⟨a, rfl⟩

theorem exists_error_of_isOk {ε : Type} {x : Except ε α} (failed : x.isOk = false) :
    ∃ failure, x = .error failure := by
  cases x with
  | error failure => exact ⟨failure, rfl⟩
  | ok a => exact absurd failed.symm Bool.false_ne_true

theorem eq_ok_of_toOption {ε : Type} {x : Except ε α} {a : α} (given : x.toOption = some a) :
    x = .ok a := by
  cases x with
  | error failure => exact absurd given (Option.some_ne_none a).symm
  | ok b => exact congrArg Except.ok (Option.some.inj given)

theorem run_forM_absorbed (es : List Edit) (p : Progress) :
    (forM es fun e => note (.absorbed e)).run p =
      (.ok (), ⟨p.pending, p.journal ++ es.map .absorbed⟩) := by
  induction es generalizing p with
  | nil => simp
  | cons e rest ih => simp [ih]

theorem run_erase {e : Edit} {p : Progress} {q : Patch} (given : p.pending.erase e = .ok q) :
    (erase e).run p = (.ok (), ⟨q, p.journal⟩) := by
  simp [erase, given, mapError_ok]

theorem run_insert {e : Edit} {p : Progress} {q : Patch} (taken : p.pending.insert e = .ok q) :
    (insert e).run p = (.ok (), ⟨q, p.journal⟩) := by
  simp [insert, taken, mapError_ok]

theorem run_forM_erase {es : List Edit} (distinct : es.Nodup) {p : Progress}
    (held : ∀ e ∈ es, e ∈ p.pending.toList) :
    ∃ q, (forM es erase).run p = (.ok (), ⟨q, p.journal⟩) ∧
      ∀ f, f ∈ q.toList ↔ f ∈ p.pending.toList ∧ f ∉ es := by
  induction es generalizing p with
  | nil => exact ⟨p.pending, by simp, by simp⟩
  | cons e rest ih =>
    obtain ⟨fresh, distinct⟩ := List.nodup_cons.1 distinct
    obtain ⟨q, given, left⟩ := Patch.erase_eq_ok (held e (by simp))
    have kept : ∀ f ∈ rest, f ∈ q.toList := by
      intro f member
      have other : f ≠ e := fun same => fresh (same ▸ member)
      exact (left f).2 ⟨held f (by simp [member]), other⟩
    obtain ⟨last, run, members⟩ := ih (p := ⟨q, p.journal⟩) distinct kept
    refine ⟨last, ?_, fun f => ?_⟩
    · simp [run_erase given, run]
    · rw [members f, left f, List.mem_cons, not_or, and_assoc]

end Submission
end Spacing
