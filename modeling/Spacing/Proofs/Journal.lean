import Mathlib.Data.List.Perm.Basic
import Spacing.Proofs.Atomicity
import Spacing.Proofs.Frame
import Spacing.Proofs.Lines

/-! The journal accounts for a submission. Entries are made while a change is planned, before the
pending edits are touched, so an entry might name an edit that is never given up. But no objection
follows an entry, and the edits that are named, with the one the range starts in, are those between
the margins of the range: the ones that are given up. -/
namespace Spacing

open Submission

def Position.edit? : Position → Option Edit
  | .base _ => none
  | .within e _ => some e

def Selection.startEdit? (s : Selection) : Option Edit := s.start.bind Position.edit?

inductive Event.PutsIn : Event → Option Edit → Prop
  | stored (e : Edit) : PutsIn (.stored e) (some e)
  | collapsed (start : Nat) : PutsIn (.collapsed start) none

/-- All that is kept of the one list is in the other, beside what has been put in. -/
def Exchanged (before after given put : List Edit) : Prop :=
  ∃ kept, before.Perm (given ++ kept) ∧ after.Perm (put ++ kept)

theorem Exchanged.of_perm {before after given taken put : List Edit}
    (exchanged : Exchanged before after given put) (same : given.Perm taken) :
    Exchanged before after taken put := by
  obtain ⟨kept, first, last⟩ := exchanged
  exact ⟨kept, first.trans (same.append_right kept), last⟩

theorem exists_toList_of_length_le_one {es : List Edit} (few : es.length ≤ 1) :
    ∃ o : Option Edit, es = o.toList := by
  cases es with
  | nil => exact ⟨none, rfl⟩
  | cons e rest =>
    cases rest with
    | nil => exact ⟨some e, rfl⟩
    | cons f rest => simp at few

def Change.put (c : Change) : Option Edit := if c.edit.isVoid then none else some c.edit

theorem Change.putsIn_record (c : Change) : c.record.PutsIn c.put := by
  unfold record put
  split
  · exact .collapsed c.edit.start
  · exact .stored c.edit

namespace Draft

/-- Between its first entry and its last the journal names at most one edit taken over inside the
range, one joined on the left and one joined on the right. With the edit the range starts in they
are what the plan gives up, and what the last entry names is what the plan puts in. -/
structure Outcome.Accounted (o : Outcome) (d : Draft) (s : Selection) (text : Text)
    (absorbed left right put : Option Edit) (last : Event) : Prop where
  journal : o.journal = .submitted s text :: (absorbed.toList.map .absorbed ++
    left.toList.map .joinedLeft ++ right.toList.map .joinedRight ++ [last])
  putsIn : last.PutsIn put
  planned : ∃ (r : Range) (c : Change) (q : Progress), s = r ∧
    (d.change r text).run ⟨d.pending, [.submitted s text]⟩ = (.ok c, q) ∧
    (c.store text.length).run q = (o.result, ⟨o.draft.pending, o.journal⟩) ∧
    c.removed.Perm (s.startEdit?.toList ++ absorbed.toList ++ left.toList ++ right.toList) ∧
    put = c.put
  exchanged : Exchanged d.pending.toList o.draft.pending.toList
    (s.startEdit?.toList ++ absorbed.toList ++ left.toList ++ right.toList) put.toList

/-- The edits that the entries between the first and the last name; together with the one the range
starts in they lie between its margins. -/
structure Met (d : Draft) (r : Range) (absorbed left right : Option Edit) : Prop where
  entries : d.encounters r = absorbed.toList.map .absorbed ++ left.toList.map .joinedLeft ++
    right.toList.map .joinedRight
  distinct : (r.start.edit?.toList ++ absorbed.toList ++ left.toList ++ right.toList).Nodup
  between : ∀ e, e ∈ r.start.edit?.toList ++ absorbed.toList ++ left.toList ++ right.toList ↔
    e ∈ d.pending.toList ∧ (d.lead r.start).offset ≤ e.start ∧ e.stop ≤ r.stop.trail.offset

variable {d : Draft}

theorem exists_inside {lo hi : Nat} {apart : Option Edit} (roomy : d.crowded? lo hi apart = none) :
    ∃ o : Option Edit, d.inside lo hi apart = o.toList := by
  apply exists_toList_of_length_le_one
  by_contra several
  simp [crowded?, Nat.lt_of_not_le several] at roomy

section Normal

variable (normal : d.IsNormal)
include normal

theorem exists_met_base {a stop : Nat} {q : Position} (right : Option Edit) (ordered : a ≤ stop)
    (reaches : q.trail.offset = right.elim stop Edit.stop)
    (joins : ∀ g, right = some g → g ∈ d.pending.toList ∧ stop = g.start ∧ a < g.start)
    (met : d.encounters ⟨.base a, q⟩ = (d.inside a stop right).map .absorbed ++
      (d.pending.stoppingAt? a).toList.map .joinedLeft ++ right.toList.map .joinedRight)
    (roomy : d.crowded? a stop right = none) :
    ∃ absorbed left, d.Met ⟨.base a, q⟩ absorbed left right := by
  obtain ⟨absorbed, found⟩ := exists_inside roomy
  have distinct := nodup_swallowed normal joins
  have members := fun e => mem_swallowed normal (e := e) ordered joins
  rw [found] at met distinct members
  refine ⟨absorbed, d.pending.stoppingAt? a, met, distinct, fun e => ?_⟩
  rw [reaches]
  exact members e

theorem exists_met_within {e : Edit} {b : Nat} (held : e ∈ d.pending.toList) (ordered : e.stop ≤ b)
    (roomy : d.crowded? e.stop b (some e) = none) :
    ∃ absorbed, d.Met ⟨.within e 0, .base b⟩ absorbed none none := by
  obtain ⟨absorbed, found⟩ := exists_inside roomy
  have distinct : (e :: d.inside e.stop b (some e)).Nodup :=
    List.nodup_cons.2 ⟨fun inside => (mem_inside.1 inside).2.2.2.1 rfl, nodup_inside _ _ _⟩
  have members := fun f => mem_cons_inside normal (f := f) held ordered
  have given : (Position.within e 0).edit?.toList ++ absorbed.toList ++ (none : Option Edit).toList
      ++ (none : Option Edit).toList = e :: d.inside e.stop b (some e) := by
    simp [Position.edit?, found]
  refine ⟨absorbed, by simp [encounters, found], ?_, ?_⟩
  · rw [given]
    exact distinct
  · rw [given]
    exact members

theorem exists_met {r : Range} (valid : d.HasRange r) (clear : d.objection? r = none) :
    ∃ absorbed left right, d.Met r absorbed left right := by
  obtain ⟨start, stop⟩ := r
  obtain ⟨first, second, order⟩ := valid
  rw [Anchor.le_iff_not_lt] at order
  cases start with
  | base a =>
    cases stop with
    | base b =>
      have ordered : a ≤ b := by simpa using order
      obtain ⟨absorbed, left, met⟩ := exists_met_base normal (q := .base b) none ordered rfl
        (by simp) (by simp [encounters]) clear
      exact ⟨absorbed, left, none, met⟩
    | within g k =>
      have later : a < g.start := by simpa using order
      have held := (hasPosition_within.1 second).1
      by_cases zero : k = 0
      · subst zero
        have joins : ∀ f, some g = some f →
            f ∈ d.pending.toList ∧ g.start = f.start ∧ a < f.start := fun f same => by
          obtain rfl := Option.some.inj same
          exact ⟨held, rfl, later⟩
        obtain ⟨absorbed, left, met⟩ := exists_met_base normal (q := .within g 0) (some g)
          (Nat.le_of_lt later) rfl joins rfl clear
        exact ⟨absorbed, left, some g, met⟩
      · simp [objection?, zero] at clear
  | within e k =>
    have held := (hasPosition_within.1 first).1
    cases stop with
    | base b =>
      have spared := ((hasPosition_base normal).1 second).2 e held
      have low : e.start ≤ b := by simpa using order
      by_cases zero : k = 0
      · subst zero
        obtain ⟨absorbed, met⟩ := exists_met_within normal held (by omega) clear
        exact ⟨absorbed, none, none, met⟩
      · simp [objection?, zero] at clear
    | within f m =>
      by_cases same : e = f
      · subst same
        refine ⟨none, none, none, rfl, by simp [Position.edit?], fun g => ?_⟩
        exact mem_singleton_iff_within normal held
      · simp [objection?, same] at clear

section Valid

variable {r : Range} {text : Text} {c : Change} (valid : d.HasRange r) (suits : d.Suits r text c)
include suits

omit normal in
theorem Met.perm_removed {absorbed left right : Option Edit}
    (met : d.Met r absorbed left right) :
    c.removed.Perm (r.start.edit?.toList ++ absorbed.toList ++ left.toList ++ right.toList) := by
  rw [List.perm_ext_iff_of_nodup suits.distinct met.distinct]
  intro e
  rw [suits.mem_removed, met.between, suits.start_eq, suits.stop_eq]

include valid

theorem exchanged_changed :
    Exchanged d.pending.toList (d.changed c.edit) c.removed c.put.toList := by
  let behind := d.pending.toList.filter fun f => f.stop < c.edit.start
  let within := d.pending.toList.filter fun f => c.edit.start ≤ f.start ∧ f.stop ≤ c.edit.stop
  let ahead := d.pending.toList.filter fun f => c.edit.stop < f.start
  have split : d.pending.toList = behind ++ within ++ ahead :=
    eq_filter_append_within c.edit.start_le_stop d.pending.ascending fun f member =>
      suits.fills.behind_or_within_or_ahead normal valid member
  have given : within.Perm c.removed := by
    have sorted := nodup_of_ascending d.pending.ascending
    rw [List.perm_ext_iff_of_nodup (sorted.filter _) suits.distinct]
    intro f
    rw [List.mem_filter, decide_eq_true_eq, suits.mem_removed]
  have put : (if c.edit.isVoid then [] else [c.edit]) = c.put.toList := by
    unfold Change.put
    cases c.edit.isVoid <;> rfl
  refine ⟨behind ++ ahead, ?_, ?_⟩
  · rw [split, ← List.append_assoc]
    exact (List.perm_append_comm.trans (given.append_right behind)).append_right ahead
  · rw [changed, put, ← List.append_assoc]
    exact List.perm_append_comm.append_right ahead

end Valid

theorem accounted_of_clear {r : Range} {text : Text} (valid : d.HasRange r)
    (clear : d.refusal? r text = none) (busy : ¬ (r.start = r.stop ∧ text = [])) :
    ∃ absorbed left right put last,
      (d.submit r text).Accounted d r text absorbed left right put last := by
  have unopposed := ((refusal?_eq_none_iff busy).1 clear).2.2
  obtain ⟨c, q, suits, pending, plans, stores, whole⟩ := exists_plan valid normal clear busy
  obtain ⟨absorbed, left, right, met⟩ := exists_met normal valid unopposed
  have given := met.perm_removed suits
  have exchanged := exchanged_changed normal valid suits
  refine ⟨absorbed, left, right, c.put, c.record, ?_, c.putsIn_record, ?_, ?_⟩
  · rw [whole, ← met.entries]
    rfl
  · refine ⟨r, c, _, rfl, plans, ?_, given, rfl⟩
    rw [stores, whole]
  · rw [whole, pending]
    exact exchanged.of_perm given

theorem journal_of_error {s : Selection} {text : Text} {failure : Failure}
    (failed : (d.submit s text).result = .error failure) :
    (∃ reason, failure = .rejected reason ∧
        (d.submit s text).journal = [.submitted s text, .refused reason]) ∨
      (failure = .missingEnd ∨ failure = .unwritable) ∧
        (d.submit s text).journal = [.submitted s text] := by
  cases resolved : d.resolve s with
  | error fault =>
    rw [submit_of_unresolved resolved] at failed ⊢
    obtain rfl : fault = failure := Except.error.inj failed
    rcases (resolve_eq_error_iff.1 resolved).cases_failure with ⟨reason, rfl⟩ | rfl | rfl
    · exact .inl ⟨reason, rfl, rfl⟩
    · exact .inr ⟨.inl rfl, rfl⟩
    · exact .inr ⟨.inr rfl, rfl⟩
  | ok r =>
    obtain ⟨rfl, valid⟩ := resolve_eq_ok.1 resolved
    cases refusal : d.refusal? r text with
    | some reason =>
      rw [submit_of_refusal valid refusal] at failed ⊢
      exact .inl ⟨reason, (Except.error.inj failed).symm, rfl⟩
    | none =>
      obtain ⟨answer, taken⟩ := exists_ok_of_accepted normal valid refusal
      rw [taken] at failed
      cases failed

section Writable

variable (short : Text.isWritable d.base.length = true)
include short

theorem Met.isWritable {r : Range} {absorbed left right : Option Edit}
    (met : d.Met r absorbed left right) {event : Event} (member : event ∈ d.encounters r) :
    event.isWritable = true := by
  have held {e : Edit} (named : e ∈ absorbed.toList ++ left.toList ++ right.toList) :
      e.integers.all Text.isWritable = true := by
    refine isWritable_of_pending normal short ((met.between e).1 ?_).1
    simp only [List.append_assoc, List.mem_append] at named ⊢
    exact .inr named
  rw [met.entries, List.mem_append, List.mem_append, List.mem_map, List.mem_map, List.mem_map]
    at member
  rcases member with (⟨e, named, rfl⟩ | ⟨e, named, rfl⟩) | ⟨e, named, rfl⟩
  · exact held (List.mem_append_left _ (List.mem_append_left _ named))
  · exact held (List.mem_append_left _ (List.mem_append_right _ named))
  · exact held (List.mem_append_right _ named)

theorem isWritable_record {r : Range} {text : Text} {c : Change} (valid : d.HasRange r)
    (suits : d.Suits r text c) : c.record.isWritable = true := by
  have bound : c.edit.stop ≤ d.base.length := by
    rw [suits.stop_eq]
    exact trail_le normal valid.2.1
  have stop := Text.isWritable_of_le bound short
  have start := Text.isWritable_of_le c.edit.start_le_stop stop
  unfold Change.record
  split
  · simp [Event.isWritable, Event.integers, start]
  · simp [Event.isWritable, Event.integers, Edit.integers, start, stop]

/-- In a base whose length can be written, all entries are but for one that repeats what was
submitted. -/
theorem isWritable_of_mem_journal {s : Selection} (told : s.integers.all Text.isWritable = true)
    (text : Text) {event : Event} (member : event ∈ (d.submit s text).journal) :
    event.isWritable = true := by
  have asked : (Event.submitted s text).isWritable = true := told
  cases resolved : d.resolve s with
  | error failure =>
    rw [submit_of_unresolved resolved] at member
    rcases List.mem_cons.1 member with rfl | closing
    · exact asked
    · cases failure with
      | rejected reason =>
        rw [List.mem_singleton.1 closing]
        exact isWritable_of_unresolved told (resolve_eq_error_iff.1 resolved)
      | _ => cases closing
  | ok r =>
    obtain ⟨rfl, valid⟩ := resolve_eq_ok.1 resolved
    cases refusal : d.refusal? r text with
    | some reason =>
      rw [submit_of_refusal valid refusal] at member
      rcases List.mem_cons.1 member with rfl | closing
      · exact asked
      · rw [List.mem_singleton.1 closing]
        exact isWritable_of_refusal normal short valid told refusal
    | none =>
      by_cases busy : r.start = r.stop ∧ text = []
      · obtain ⟨empty, rfl⟩ := busy
        rw [submit_of_idle valid empty] at member
        rw [List.mem_singleton.1 member]
        exact asked
      · have unopposed := ((refusal?_eq_none_iff busy).1 refusal).2.2
        obtain ⟨c, _, suits, _, _, _, whole⟩ := exists_plan valid normal refusal busy
        obtain ⟨absorbed, left, right, met⟩ := exists_met normal valid unopposed
        rw [whole, List.cons_append, List.mem_cons, List.mem_append, List.mem_singleton] at member
        rcases member with rfl | met_with | rfl
        · exact asked
        · exact met.isWritable normal short met_with
        · exact isWritable_record normal short valid suits

end Writable

end Normal

end Draft
end Spacing
