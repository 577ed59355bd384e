import Mathlib.Data.List.Forall2
import Spacing.Proofs.Description
import Spacing.Proofs.Resolution

namespace Spacing

namespace Event

inductive Reads : Event → Text → Prop
  | submitted (s : Selection) (text : Text) : Reads (.submitted s text)
    ("add_change ".toList ++ s.describe ++ " <- ".toList ++ text.visibleQuoted)
  | refused (reason : Rejection) : Reads (.refused reason)
    ("change rejected: ".toList ++ (Failure.rejected reason).message)
  | absorbed (e : Edit) : Reads (.absorbed e) ("absorbing ".toList ++ e.describe)
  | joinedLeft (e : Edit) :
    Reads (.joinedLeft e) ("merging ".toList ++ e.describe ++ " on the left".toList)
  | joinedRight (e : Edit) :
    Reads (.joinedRight e) ("merging ".toList ++ e.describe ++ " on the right".toList)
  | stored (e : Edit) : Reads (.stored e) ("stored ".toList ++ e.describe)
  | collapsed (start : Nat) : Reads (.collapsed start)
    ("change at ".toList ++ Text.ofNat start ++ " collapsed to nothing".toList)

def IsExchange : Event → Prop
  | submitted .. | refused .. => False
  | _ => True

/-- Eight characters tell the entries apart by their kind, but for the two sides of a join. -/
def opening : Event → Text
  | submitted .. => ['a', 'd', 'd', '_', 'c', 'h', 'a', 'n']
  | refused .. => ['c', 'h', 'a', 'n', 'g', 'e', ' ', 'r']
  | absorbed .. => ['a', 'b', 's', 'o', 'r', 'b', 'i', 'n']
  | joinedLeft .. | joinedRight .. => ['m', 'e', 'r', 'g', 'i', 'n', 'g', ' ']
  | stored .. => ['s', 't', 'o', 'r', 'e', 'd', ' ', 'T']
  | collapsed .. => ['c', 'h', 'a', 'n', 'g', 'e', ' ', 'a']

theorem reads_message (event : Event) : event.Reads event.message := by
  cases event with
  | submitted s text => exact .submitted s text
  | refused reason => exact .refused reason
  | absorbed e => exact .absorbed e
  | joinedLeft e => exact .joinedLeft e
  | joinedRight e => exact .joinedRight e
  | stored e => exact .stored e
  | collapsed start => exact .collapsed start

variable {a b : Event} {line : Text}

theorem Reads.eq_message (reads : a.Reads line) : line = a.message := by
  cases reads with
  | _ => rfl

theorem take_message (a : Event) : a.message.take 8 = a.opening := by
  cases a with
  | _ => rfl

theorem eq_of_message_eq (exchange : a.IsExchange) (same : a.message = b.message) : a = b := by
  have openings : a.opening = b.opening := by rw [← take_message, ← take_message, same]
  have merging := Edit.selfDelimiting_describe.behind "merging ".toList
  cases a with
  | submitted | refused => exact exchange.elim
  | absorbed e =>
    cases b with
    | absorbed f => rw [Edit.selfDelimiting_describe.injective (List.append_cancel_left same)]
    | _ => simp [opening] at openings
  | joinedLeft e =>
    cases b with
    | joinedLeft f => rw [(merging same).1]
    | joinedRight f => exact absurd (merging same).2 (by decide)
    | _ => simp [opening] at openings
  | joinedRight e =>
    cases b with
    | joinedLeft f => exact absurd (merging same).2 (by decide)
    | joinedRight f => rw [(merging same).1]
    | _ => simp [opening] at openings
  | stored e =>
    cases b with
    | stored f => rw [Edit.selfDelimiting_describe.injective (List.append_cancel_left same)]
    | _ => simp [opening] at openings
  | collapsed start =>
    cases b with
    | collapsed start' =>
      have numbers := List.append_cancel_left (List.append_cancel_right same)
      rw [Text.ofNat_injective numbers]
    | _ => simp [opening] at openings

theorem Reads.unique (exchange : a.IsExchange) (first : a.Reads line) (second : b.Reads line) :
    b = a := by
  refine (eq_of_message_eq exchange ?_).symm
  rw [← first.eq_message, ← second.eq_message]

end Event

namespace Draft

theorem Outcome.reads_lines (o : Outcome) :
    List.Forall₂ Event.Reads (o.journal.filter Event.isWritable) o.lines := by
  rw [lines, List.forall₂_map_right_iff, List.forall₂_same]
  exact fun event _ => event.reads_message

variable {d : Draft}

theorem length_le_of_apart {es : List Edit} (lo hi : Nat)
    (apart : es.Pairwise fun a b => a.stop < b.start) (within : ∀ e ∈ es, lo < e.stop ∧ e.stop ≤ hi) :
    es.length ≤ hi - lo := by
  induction es generalizing lo with
  | nil => exact Nat.zero_le _
  | cons e rest ih =>
    obtain ⟨ahead, apart⟩ := List.pairwise_cons.1 apart
    obtain ⟨⟨low, high⟩, within⟩ := List.forall_mem_cons.1 within
    -- All the others stop past the offset where the first one does.
    have few := ih e.stop apart fun f member => by
      have before := ahead f member
      have order := f.start_le_stop
      exact ⟨by omega, (within f member).2⟩
    rw [List.length_cons]
    omega

section Writable

variable (normal : d.IsNormal) (short : Text.isWritable d.base.length = true)
include normal short

theorem isWritable_of_pending {e : Edit} (held : e ∈ d.pending.toList) :
    e.integers.all Text.isWritable = true := by
  have stop := Text.isWritable_of_le (normal.inBase e held) short
  have start := Text.isWritable_of_le e.start_le_stop stop
  simp [Edit.integers, start, stop]

theorem isWritable_of_crowded {lo hi : Nat} {apart : Option Edit} {reason : Rejection}
    (inBase : hi ≤ d.base.length) (crowded : d.crowded? lo hi apart = some reason) :
    reason.isWritable = true := by
  unfold crowded? at crowded
  split at crowded
  · next several =>
    obtain rfl := Option.some.inj crowded
    have sorted : (d.inside lo hi apart).Pairwise fun a b => a.stop < b.start := by
      rw [inside, Patch.between_eq]
      exact (normal.apart.filter _).filter _
    have few := length_le_of_apart lo hi sorted fun e member => by
      obtain ⟨_, low, high, _, moved⟩ := mem_inside.1 member
      have order := e.start_le_stop
      omega
    have top := Text.isWritable_of_le inBase short
    have bottom : Text.isWritable lo = true := Text.isWritable_of_le (by omega) top
    have count : Text.isWritable (d.inside lo hi apart).length = true :=
      Text.isWritable_of_le (Nat.le_trans few (Nat.sub_le hi lo)) top
    simp [Rejection.isWritable, Rejection.integers, top, bottom, count]
  · cases crowded

theorem isWritable_of_objection {r : Range} (valid : d.HasRange r)
    (told : r.integers.all Text.isWritable = true) {reason : Rejection}
    (found : d.objection? r = some reason) : reason.isWritable = true := by
  obtain ⟨start, stop⟩ := r
  obtain ⟨first, second, _⟩ := valid
  obtain ⟨early, late⟩ := Bool.and_eq_true_iff.1 (List.all_append.symm.trans told)
  cases start with
  | base a =>
    cases stop with
    | base b =>
      exact isWritable_of_crowded normal short ((hasPosition_base normal).1 second).1 found
    | within g k =>
      have bound := normal.inBase g (hasPosition_within.1 second).1
      simp only [objection?] at found
      split at found
      · exact isWritable_of_crowded normal short (Nat.le_trans g.start_le_stop bound) found
      · rw [← Option.some.inj found]
        exact late
  | within e k =>
    cases stop with
    | base b =>
      simp only [objection?] at found
      split at found
      · exact isWritable_of_crowded normal short ((hasPosition_base normal).1 second).1 found
      · rw [← Option.some.inj found]
        exact early
    | within f m =>
      simp only [objection?] at found
      split at found
      · cases found
      · rw [← Option.some.inj found]
        exact told

theorem isWritable_of_refusal {r : Range} (valid : d.HasRange r)
    (told : r.integers.all Text.isWritable = true) {text : Text} {reason : Rejection}
    (found : d.refusal? r text = some reason) : reason.isWritable = true := by
  unfold refusal? at found
  split at found
  · rw [← Option.some.inj found]
    rfl
  · split at found
    · cases found
    · split at found
      · rw [← Option.some.inj found]
        exact told
      · exact isWritable_of_objection normal short valid told found

end Writable

theorem isWritable_of_unresolved {s : Selection} {reason : Rejection}
    (told : s.integers.all Text.isWritable = true) (unresolved : d.Unresolved s (.rejected reason)) :
    reason.isWritable = true := by
  generalize same : Failure.rejected reason = failure at unresolved
  cases unresolved with
  | startMissing | stopMissing => cases same
  | startRefused | stopRefused => exact Rejection.isWritable_of_failure same.symm
  | reversed asked =>
    rw [Failure.rejected.inj same]
    rw [asked] at told
    exact told

end Draft
end Spacing
