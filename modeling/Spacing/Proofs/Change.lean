import Spacing.Proofs.Margin
import Spacing.Proofs.Run

/-! What edit a submission leads to. In each of the three ways a range can join base text and edits,
the new edit reaches from the margin of the range's start to the margin of its end, carries the
texts kept there around the submitted one, and stands for the pending edits it reaches over. -/
namespace Spacing

open Submission

namespace Draft

structure Suits (d : Draft) (r : Range) (text : Text) (c : Change) : Prop where
  start_eq : c.edit.start = (d.lead r.start).offset
  stop_eq : c.edit.stop = r.stop.trail.offset
  text_eq : c.edit.text = (d.lead r.start).text ++ text ++ r.stop.trail.text
  shift_eq : c.shift = (d.lead r.start).text.length
  distinct : c.removed.Nodup
  mem_removed : ∀ e, e ∈ c.removed ↔
    e ∈ d.pending.toList ∧ c.edit.start ≤ e.start ∧ e.stop ≤ c.edit.stop

def crowded? (d : Draft) (lo hi : Nat) (apart : Option Edit) : Option Rejection :=
  if 1 < (d.inside lo hi apart).length then
    some (.severalInside lo hi (d.inside lo hi apart).length)
  else none

def objection? (d : Draft) (r : Range) : Option Rejection :=
  match r.start, r.stop with
  | .base start, .base stop => d.crowded? start stop none
  | .base start, .within right offset =>
    if offset = 0 then d.crowded? start right.start (some right)
    else some (.stopsInsideEdit right offset)
  | .within e offset, .base stop =>
    if offset = 0 then d.crowded? e.stop stop (some e) else some (.startsInsideEdit e offset)
  | .within e _, .within f _ => if e = f then none else some (.spansEdits r)

def encounters (d : Draft) (r : Range) : List Event :=
  match r.start, r.stop with
  | .base start, .base stop =>
    (d.inside start stop none).map .absorbed ++
      (d.pending.stoppingAt? start).toList.map .joinedLeft
  | .base start, .within right _ =>
    (d.inside start right.start (some right)).map .absorbed ++
      (d.pending.stoppingAt? start).toList.map .joinedLeft ++ [.joinedRight right]
  | .within e _, .base stop => (d.inside e.stop stop (some e)).map .absorbed
  | .within _ _, .within _ _ => []

variable {d : Draft}

theorem run_absorb (lo hi : Nat) (apart : Option Edit) (p : Progress) :
    (d.absorb lo hi apart).run p =
      match d.crowded? lo hi apart with
      | some reason => (.error (.rejected reason), p)
      | none => (.ok (d.inside lo hi apart),
          ⟨p.pending, p.journal ++ (d.inside lo hi apart).map .absorbed⟩) := by
  unfold absorb crowded?
  by_cases several : 1 < (d.inside lo hi apart).length
  · simp only [if_pos several, run_bind, run_reject]
  · simp only [if_neg several, run_bind, run_pure, List.forM_eq_forM, run_forM_absorbed]

theorem mem_inside {lo hi : Nat} {apart : Option Edit} {e : Edit} :
    e ∈ d.inside lo hi apart ↔ e ∈ d.pending.toList ∧ lo ≤ e.start ∧ e.stop ≤ hi ∧
      apart ≠ some e ∧ (e.start = e.stop → e.start ≠ lo) := by
  rw [inside, Patch.between_eq, List.mem_filter, List.mem_filter, and_assoc]
  refine and_congr_right fun _ => ?_
  simp only [Int.ofNat_le, decide_eq_true_eq, Bool.and_eq_true, bne_iff_ne, Bool.not_eq_true',
    Bool.and_eq_false_imp, Edit.isInsertion, beq_iff_eq, beq_eq_false_iff_ne, and_assoc]
  rw [ne_comm]

theorem nodup_inside (lo hi : Nat) (apart : Option Edit) : (d.inside lo hi apart).Nodup := by
  rw [inside, Patch.between_eq]
  exact ((nodup_of_ascending d.pending.ascending).filter _).filter _

theorem run_joinLeft {change : Change} {left : Option Edit} (fresh : change.shift = 0)
    (adjacent : ∀ e, left = some e → e.stop = change.edit.start) :
    ∃ c : Change, c.edit.start = left.elim change.edit.start Edit.start ∧
      c.edit.stop = change.edit.stop ∧
      c.edit.text = left.elim [] Edit.text ++ change.edit.text ∧
      c.shift = (left.elim [] Edit.text).length ∧ c.removed = change.removed ++ left.toList ∧
      ∀ p, (change.joinLeft left).run p =
        (.ok c, ⟨p.pending, p.journal ++ left.toList.map .joinedLeft⟩) := by
  cases left with
  | none =>
    refine ⟨change, rfl, rfl, rfl, fresh, by simp, fun p => ?_⟩
    simp [Change.joinLeft]
  | some e =>
    obtain ⟨joined, made, start, stop, text⟩ := Edit.join_eq_ok (adjacent e rfl)
    refine ⟨⟨joined, e.text.length, change.removed ++ [e]⟩, start, stop, text, rfl, rfl,
      fun p => ?_⟩
    simp only [Change.joinLeft, run_bind, run_note, run_ok, run_pure, made, mapError_ok]
    rfl

theorem run_joinRight {change : Change} {right : Option Edit}
    (adjacent : ∀ e, right = some e → change.edit.stop = e.start) :
    ∃ c : Change, c.edit.start = change.edit.start ∧
      c.edit.stop = right.elim change.edit.stop Edit.stop ∧
      c.edit.text = change.edit.text ++ right.elim [] Edit.text ∧
      c.shift = change.shift ∧ c.removed = change.removed ++ right.toList ∧
      ∀ p, (change.joinRight right).run p =
        (.ok c, ⟨p.pending, p.journal ++ right.toList.map .joinedRight⟩) := by
  cases right with
  | none =>
    refine ⟨change, rfl, rfl, by simp, rfl, by simp, fun p => ?_⟩
    simp [Change.joinRight]
  | some e =>
    obtain ⟨joined, made, start, stop, text⟩ := Edit.join_eq_ok (adjacent e rfl)
    refine ⟨⟨joined, change.shift, change.removed ++ [e]⟩, start, stop, text, rfl, rfl,
      fun p => ?_⟩
    simp only [Change.joinRight, run_bind, run_note, run_ok, run_pure, made, mapError_ok]
    rfl

/-- An objection is raised before anything is noted. -/
theorem run_change_of_objection {r : Range} {text : Text} {reason : Rejection}
    (found : d.objection? r = some reason) (p : Progress) :
    (d.change r text).run p = (.error (.rejected reason), p) := by
  obtain ⟨start, stop⟩ := r
  cases start with
  | base a =>
    cases stop with
    | base b =>
      have crowded : d.crowded? a b none = some reason := found
      simp only [change, changeInBase, run_bind, run_absorb, crowded]
    | within g k =>
      simp only [objection?] at found
      split at found
      · next zero => simp only [change, zero, changeInBase, run_bind, run_absorb, found, if_true]
      · next inner =>
        obtain rfl := Option.some.inj found
        simp only [change, if_neg inner, run_reject]
  | within e k =>
    cases stop with
    | base b =>
      simp only [objection?] at found
      split at found
      · next zero => simp only [change, zero, changeFromEdit, run_bind, run_absorb, found, if_true]
      · next inner =>
        obtain rfl := Option.some.inj found
        simp only [change, if_neg inner, run_reject]
    | within f m =>
      simp only [objection?] at found
      split at found
      · simp at found
      · next other =>
        obtain rfl := Option.some.inj found
        simp only [change, if_neg other, run_reject]

section Normal

variable (normal : d.IsNormal)
include normal

theorem mem_inside_or_left {start stop : Nat} {right : Option Edit} {e : Edit}
    (ordered : start ≤ stop) (beyond : ∀ g, right = some g → start < g.start) :
    (e ∈ d.inside start stop right ∨ d.pending.stoppingAt? start = some e) ↔
      e ∈ d.pending.toList ∧ (d.lead (.base start)).offset ≤ e.start ∧ e.stop ≤ stop ∧
        right ≠ some e := by
  rw [mem_inside, lead]
  have size := e.start_le_stop
  cases left : d.pending.stoppingAt? start with
  | none =>
    have free := (Patch.stoppingAt?_eq_none_iff normal.apart).1 left e
    constructor
    · rintro (⟨member, low, high, other, _⟩ | found)
      · exact ⟨member, low, high, other⟩
      · simp at found
    · rintro ⟨member, low, high, other⟩
      have low : start ≤ e.start := low
      have ends := free member
      exact Or.inl ⟨member, low, high, other, by omega⟩
  | some l =>
    obtain ⟨held, touching⟩ := (Patch.stoppingAt?_eq_some_iff normal.apart).1 left
    have order := l.start_le_stop
    constructor
    · rintro (⟨member, low, high, other, _⟩ | found)
      · exact ⟨member, by simp only [Option.elim_some]; omega, high, other⟩
      · obtain rfl : l = e := by simpa using found
        refine ⟨held, Nat.le_refl _, by omega, fun same => ?_⟩
        have later := beyond l same
        omega
    · -- Any other edit past the one on the left starts beyond `start`, so it is no insertion there.
      rintro ⟨member, low, high, other⟩
      have low : l.start ≤ e.start := low
      rcases apart_or normal.apart held member with same | later | earlier
      · exact Or.inr (congrArg some same)
      · exact Or.inl ⟨member, by omega, high, other, by omega⟩
      · omega

theorem mem_swallowed {start stop : Nat} {right : Option Edit} {e : Edit} (ordered : start ≤ stop)
    (joins : ∀ g, right = some g → g ∈ d.pending.toList ∧ stop = g.start ∧ start < g.start) :
    e ∈ d.inside start stop right ++ (d.pending.stoppingAt? start).toList ++ right.toList ↔
      e ∈ d.pending.toList ∧ (d.lead (.base start)).offset ≤ e.start ∧
        e.stop ≤ right.elim stop Edit.stop := by
  have members := mem_inside_or_left normal (e := e) ordered fun g found => (joins g found).2.2
  rw [List.mem_append, List.mem_append, Option.mem_toList, Option.mem_toList, members]
  cases right with
  | none => simp
  | some g =>
    obtain ⟨held, touching, later⟩ := joins g rfl
    have reach := lead_base_le normal start
    have size := e.start_le_stop
    have order := g.start_le_stop
    simp only [ne_eq, Option.some.injEq, Option.elim_some]
    constructor
    · rintro (⟨member, low, high, _⟩ | rfl)
      · exact ⟨member, low, by omega⟩
      · exact ⟨held, by omega, Nat.le_refl _⟩
    · rintro ⟨member, low, high⟩
      rcases apart_or normal.apart held member with same | behind | ahead
      · exact Or.inr same
      · omega
      · exact Or.inl ⟨member, low, by omega, fun same => by subst same; omega⟩

theorem nodup_swallowed {start stop : Nat} {right : Option Edit}
    (joins : ∀ g, right = some g → g ∈ d.pending.toList ∧ stop = g.start ∧ start < g.start) :
    (d.inside start stop right ++ (d.pending.stoppingAt? start).toList ++ right.toList).Nodup := by
  have stops : ∀ e, d.pending.stoppingAt? start = some e → e.stop = start := fun e found => by
    have touching := ((Patch.stoppingAt?_eq_some_iff normal.apart).1 found).2
    omega
  have single : ∀ e : Option Edit, e.toList.Nodup := fun e => by cases e <;> simp
  rw [List.nodup_append, List.nodup_append]
  refine ⟨⟨nodup_inside _ _ _, single _, ?_⟩, single _, ?_⟩
  · intro e first f second same
    subst same
    obtain ⟨_, low, _, _, insertion⟩ := mem_inside.1 first
    have touching := stops e (by simpa using second)
    have size := e.start_le_stop
    exact insertion (by omega) (by omega)
  · intro e first f second same
    subst same
    have found : right = some e := by simpa using second
    rcases List.mem_append.1 first with inside | onLeft
    · exact (mem_inside.1 inside).2.2.2.1 found
    · have touching := stops e (by simpa using onLeft)
      have later := (joins e found).2.2
      have size := e.start_le_stop
      omega

theorem mem_cons_inside {e f : Edit} {stop : Nat} (held : e ∈ d.pending.toList)
    (ordered : e.stop ≤ stop) :
    f ∈ e :: d.inside e.stop stop (some e) ↔
      f ∈ d.pending.toList ∧ e.start ≤ f.start ∧ f.stop ≤ stop := by
  have size := f.start_le_stop
  have order := e.start_le_stop
  rw [List.mem_cons, mem_inside]
  constructor
  · rintro (rfl | ⟨member, low, high, _⟩)
    · exact ⟨held, Nat.le_refl _, ordered⟩
    · exact ⟨member, by omega, high⟩
  · rintro ⟨member, low, high⟩
    rcases apart_or normal.apart held member with same | later | earlier
    · exact Or.inl same.symm
    · refine Or.inr ⟨member, by omega, high, fun same => ?_, by omega⟩
      obtain rfl := Option.some.inj same
      omega
    · omega

theorem mem_singleton_iff_within {e f : Edit} (held : e ∈ d.pending.toList) :
    f ∈ [e] ↔ f ∈ d.pending.toList ∧ e.start ≤ f.start ∧ f.stop ≤ e.stop := by
  have size := f.start_le_stop
  rw [List.mem_singleton]
  constructor
  · rintro rfl
    exact ⟨held, Nat.le_refl _, Nat.le_refl _⟩
  · rintro ⟨member, low, high⟩
    rcases apart_or normal.apart held member with same | later | earlier
    · exact same.symm
    · omega
    · omega

theorem run_changeInBase {start stop : Nat} {q : Position} {right : Option Edit} {text : Text}
    (trail : q.trail = ⟨right.elim stop Edit.stop, right.elim [] Edit.text⟩)
    (ordered : start ≤ stop) (blank : text.IsBlank)
    (joins : ∀ g, right = some g → g ∈ d.pending.toList ∧ stop = g.start ∧ start < g.start)
    (roomy : d.crowded? start stop right = none) :
    ∃ c, d.Suits ⟨.base start, q⟩ text c ∧
      ∀ p, (d.changeInBase start stop right text).run p =
        (.ok c, ⟨p.pending, p.journal ++ ((d.inside start stop right).map .absorbed ++
          (d.pending.stoppingAt? start).toList.map .joinedLeft ++
          right.toList.map .joinedRight)⟩) := by
  have onLeft : ∀ e, d.pending.stoppingAt? start = some e → e.stop = start := fun e found => by
    have touching := ((Patch.stoppingAt?_eq_some_iff normal.apart).1 found).2
    omega
  obtain ⟨b, b_start, b_stop, b_text, b_shift, b_removed, joined⟩ :=
    @run_joinLeft ⟨⟨start, stop, text, ordered, blank⟩, 0, d.inside start stop right⟩ _ rfl onLeft
  have onRight : ∀ g, right = some g → b.edit.stop = g.start := fun g found =>
    b_stop.trans (joins g found).2.1
  obtain ⟨c, c_start, c_stop, c_text, c_shift, c_removed, ended⟩ := run_joinRight onRight
  have from_lead : c.edit.start = (d.lead (.base start)).offset := by
    rw [c_start, b_start, lead_base_offset]
  have to_trail : c.edit.stop = right.elim stop Edit.stop := by rw [c_stop, b_stop]
  have removed : c.removed = d.inside start stop right ++
      (d.pending.stoppingAt? start).toList ++ right.toList := by
    rw [c_removed, b_removed]
  refine ⟨c, ⟨from_lead, ?_, ?_, ?_, ?_, fun e => ?_⟩, fun p => ?_⟩
  · rw [to_trail, trail]
  · rw [c_text, b_text, trail, lead_base_text]
  · rw [c_shift, b_shift, lead_base_text]
  · rw [removed]
    exact nodup_swallowed normal joins
  · rw [removed, from_lead, to_trail]
    exact mem_swallowed normal ordered joins
  · simp only [changeInBase, run_bind, run_absorb, roomy, Edit.of_eq_ok ordered blank,
      mapError_ok, run_ok, joined, ended, List.append_assoc]

theorem run_changeFromEdit {e : Edit} {stop : Nat} {text : Text} (held : e ∈ d.pending.toList)
    (ordered : e.stop ≤ stop) (blank : text.IsBlank)
    (roomy : d.crowded? e.stop stop (some e) = none) :
    ∃ c, d.Suits ⟨.within e 0, .base stop⟩ text c ∧
      ∀ p, (d.changeFromEdit e stop text).run p =
        (.ok c, ⟨p.pending, p.journal ++ (d.inside e.stop stop (some e)).map .absorbed⟩) := by
  have bounds : e.start ≤ stop := Nat.le_trans e.start_le_stop ordered
  refine ⟨⟨⟨e.start, stop, text, bounds, blank⟩, 0, e :: d.inside e.stop stop (some e)⟩,
    ⟨rfl, rfl, ?_, rfl, ?_, fun f => mem_cons_inside normal held ordered⟩, fun p => ?_⟩
  · simp [lead, Position.trail]
  · refine List.nodup_cons.2 ⟨fun inside => ?_, nodup_inside _ _ _⟩
    exact (mem_inside.1 inside).2.2.2.1 rfl
  · simp only [changeFromEdit, run_bind, run_absorb, roomy, Edit.of_eq_ok bounds blank,
      mapError_ok, run_ok, run_pure]

theorem run_changeInEdit {e : Edit} {lo : Nat} (hi : Nat) {text : Text}
    (held : e ∈ d.pending.toList) (bound : lo ≤ e.text.length) (blank : text.IsBlank) :
    ∃ c, d.Suits ⟨.within e lo, .within e hi⟩ text c ∧
      ∀ p, (changeInEdit e lo hi text).run p = (.ok c, p) := by
  have all : Text.IsBlank (e.text.take lo ++ text ++ e.text.drop hi) :=
    Text.isBlank_append.2 ⟨Text.isBlank_append.2 ⟨e.blank.take lo, blank⟩, e.blank.drop hi⟩
  refine ⟨⟨⟨e.start, e.stop, _, e.start_le_stop, all⟩, lo, [e]⟩,
    ⟨rfl, rfl, rfl, ?_, by simp, fun f => mem_singleton_iff_within normal held⟩,
    fun p => ?_⟩
  · simp [lead, bound]
  · simp only [changeInEdit, run_bind, Edit.of_eq_ok e.start_le_stop all, mapError_ok, run_ok,
      run_pure]

/-- A valid range to which nothing is objected leads to an edit that suits it. -/
theorem run_change {r : Range} {text : Text} (valid : d.HasRange r) (blank : text.IsBlank)
    (clear : d.objection? r = none) :
    ∃ c, d.Suits r text c ∧
      ∀ p, (d.change r text).run p = (.ok c, ⟨p.pending, p.journal ++ d.encounters r⟩) := by
  obtain ⟨start, stop⟩ := r
  obtain ⟨first, second, order⟩ := valid
  rw [Anchor.le_iff_not_lt] at order
  cases start with
  | base a =>
    cases stop with
    | base b =>
      have ordered : a ≤ b := by simpa using order
      have joins : ∀ g, (none : Option Edit) = some g →
          g ∈ d.pending.toList ∧ b = g.start ∧ a < g.start := by simp
      obtain ⟨c, suits, run⟩ := run_changeInBase normal (q := .base b) rfl ordered blank joins clear
      exact ⟨c, suits, fun p => by simpa [change, encounters] using run p⟩
    | within g k =>
      have later : a < g.start := by simpa using order
      have joins : ∀ f, some g = some f →
          f ∈ d.pending.toList ∧ g.start = f.start ∧ a < f.start := fun f same => by
        obtain rfl := Option.some.inj same
        exact ⟨(hasPosition_within.1 second).1, rfl, later⟩
      by_cases zero : k = 0
      · subst zero
        obtain ⟨c, suits, run⟩ := run_changeInBase normal (q := .within g 0) rfl
          (Nat.le_of_lt later) blank joins clear
        exact ⟨c, suits, fun p => by simpa [change, encounters] using run p⟩
      · simp [objection?, zero] at clear
  | within e k =>
    obtain ⟨held, bound⟩ := hasPosition_within.1 first
    cases stop with
    | base b =>
      have spared := ((hasPosition_base normal).1 second).2 e held
      have low : e.start ≤ b := by simpa using order
      by_cases zero : k = 0
      · subst zero
        obtain ⟨c, suits, run⟩ := run_changeFromEdit normal held (by omega) blank clear
        exact ⟨c, suits, fun p => by simpa [change, encounters] using run p⟩
      · simp [objection?, zero] at clear
    | within f m =>
      by_cases same : e = f
      · subst same
        obtain ⟨c, suits, run⟩ := run_changeInEdit normal m held bound blank
        exact ⟨c, suits, fun p => by simpa [change, encounters] using run p⟩
      · simp [objection?, same] at clear

end Normal

end Draft
end Spacing
