import Spacing.Edit
import Spacing.PartitionPoint

/-! A patch holds edits in ascending order of their starts, at most one for each start. It does not
ask for edits to keep apart. Inserting and erasing find their place by binary search; the main
statements say what they do to the list of edits. -/
namespace Spacing

structure Patch where
  edits : Array Edit
  ordered : edits.toList.Pairwise fun a b => a.start < b.start
deriving DecidableEq

namespace Patch

def empty : Patch := ⟨#[], by simp⟩

def toList (p : Patch) : List Edit := p.edits.toList

def size (p : Patch) : Nat := p.edits.size

def describeEdits (edits : List Edit) : Text := Text.bracketed (edits.map Edit.describe)

def describe (p : Patch) : Text :=
  "ChangeSet(".toList ++ describeEdits p.toList ++ [')']

def lowerBound (p : Patch) (offset : Int) : Nat :=
  partitionPoint p.edits fun e => (e.start : Int) < offset

def upperBound (p : Patch) (offset : Int) : Nat :=
  partitionPoint p.edits fun e => (e.start : Int) ≤ offset

def at? (p : Patch) (offset : Int) : Option Edit :=
  p.edits[p.lowerBound offset]?.filter fun e => (e.start : Int) == offset

def contains (p : Patch) (e : Edit) : Bool := p.at? e.start == some e

theorem lowerBound_partitioned (p : Patch) (offset : Int) :
    Partitioned p.edits fun e => decide ((e.start : Int) < offset) :=
  p.ordered.imp fun less => by simp only [decide_eq_true_eq]; omega

theorem upperBound_partitioned (p : Patch) (offset : Int) :
    Partitioned p.edits fun e => decide ((e.start : Int) ≤ offset) :=
  p.ordered.imp fun less => by simp only [decide_eq_true_eq]; omega

theorem take_lowerBound (p : Patch) (offset : Int) :
    p.toList.take (p.lowerBound offset) = p.toList.filter fun e => (e.start : Int) < offset :=
  (take_partitionPoint _ _ (p.lowerBound_partitioned offset)).1

theorem drop_lowerBound (p : Patch) (offset : Int) :
    p.toList.drop (p.lowerBound offset) = p.toList.filter fun e => offset ≤ (e.start : Int) := by
  refine (take_partitionPoint _ _ (p.lowerBound_partitioned offset)).2.trans ?_
  exact List.filter_congr fun e _ => by simp [← decide_not]

theorem take_upperBound (p : Patch) (offset : Int) :
    p.toList.take (p.upperBound offset) = p.toList.filter fun e => (e.start : Int) ≤ offset :=
  (take_partitionPoint _ _ (p.upperBound_partitioned offset)).1

theorem drop_upperBound (p : Patch) (offset : Int) :
    p.toList.drop (p.upperBound offset) = p.toList.filter fun e => offset < (e.start : Int) := by
  refine (take_partitionPoint _ _ (p.upperBound_partitioned offset)).2.trans ?_
  exact List.filter_congr fun e _ => by simp [← decide_not]

theorem eq_of_start_eq {p : Patch} {a b : Edit} (ha : a ∈ p.toList) (hb : b ∈ p.toList)
    (same : a.start = b.start) : a = b := by
  obtain ⟨i, hi, rfl⟩ := List.getElem_of_mem ha
  obtain ⟨j, hj, rfl⟩ := List.getElem_of_mem hb
  have pairs := List.pairwise_iff_getElem.1 p.ordered
  have index : i = j := by
    rcases Nat.lt_trichotomy i j with less | equal | more
    · exact absurd (pairs i j hi hj less) (by simp only [toList] at same; omega)
    · exact equal
    · exact absurd (pairs j i hj hi more) (by simp only [toList] at same; omega)
  subst index
  rfl

theorem getElem?_lowerBound (p : Patch) (offset : Int) :
    p.edits[p.lowerBound offset]? = p.toList.find? fun e => offset ≤ (e.start : Int) := by
  rw [← Array.getElem?_toList, ← List.head?_drop, ← List.head?_filter]
  exact congrArg List.head? (p.drop_lowerBound offset)

theorem at?_eq_some_iff {p : Patch} {offset : Int} {e : Edit} :
    p.at? offset = some e ↔ e ∈ p.toList ∧ (e.start : Int) = offset := by
  rw [at?, getElem?_lowerBound, Option.filter_eq_some_iff, beq_iff_eq]
  refine and_congr_left fun same => ⟨fun found => List.mem_of_find?_eq_some found, fun member => ?_⟩
  cases found : p.toList.find? fun e => decide (offset ≤ (e.start : Int)) with
  | none =>
    have missed := List.find?_eq_none.1 found e member
    simp [same] at missed
  | some first =>
    obtain ⟨holds, front, back, split, skipped⟩ := List.find?_eq_some_iff_append.1 found
    have reached : offset ≤ (first.start : Int) := by simpa using holds
    have ascending : p.toList.Pairwise fun a b => a.start < b.start := p.ordered
    rw [split] at ascending member
    have parts := List.pairwise_append.1 ascending
    rcases List.mem_append.1 member with early | late
    · have missed := skipped e early
      simp [same] at missed
    · rcases List.mem_cons.1 late with rfl | behind
      · rfl
      · have less := (List.pairwise_cons.1 parts.2.1).1 e behind
        omega

theorem contains_iff {p : Patch} {e : Edit} : p.contains e = true ↔ e ∈ p.toList := by
  simp [contains, at?_eq_some_iff]

theorem at?_eq_none_iff {p : Patch} {offset : Int} :
    p.at? offset = none ↔ ∀ e ∈ p.toList, (e.start : Int) ≠ offset := by
  constructor
  · intro missed e member same
    have found := at?_eq_some_iff.2 ⟨member, same⟩
    simp [missed] at found
  · intro apart
    cases found : p.at? offset with
    | none => rfl
    | some e =>
      obtain ⟨member, same⟩ := at?_eq_some_iff.1 found
      exact absurd same (apart e member)

inductive Fault
  | occupied (existing : Edit)
  | absent (edit : Edit)
deriving DecidableEq

def Fault.message : Fault → Text
  | .occupied existing =>
    Text.telling existing.integers
      ("Change set already has an edit at ".toList ++ Text.ofNat existing.start ++ ": ".toList ++
        existing.describe)
  | .absent edit => edit.describe

def inserted (p : Patch) (e : Edit) : List Edit :=
  p.toList.take (p.lowerBound e.start) ++ e :: p.toList.drop (p.lowerBound e.start)

theorem inserted_ordered {p : Patch} {e : Edit} (free : p.at? e.start = none) :
    (p.inserted e).Pairwise fun a b => a.start < b.start := by
  have ascending : p.toList.Pairwise fun a b => a.start < b.start := p.ordered
  have before : ∀ a ∈ p.toList.take (p.lowerBound e.start), a.start < e.start := by
    intro a member
    rw [take_lowerBound] at member
    simpa using (List.mem_filter.1 member).2
  have after : ∀ a ∈ p.toList.drop (p.lowerBound e.start), e.start < a.start := by
    intro a member
    rw [drop_lowerBound, List.mem_filter] at member
    have other := at?_eq_none_iff.1 free a member.1
    have least : (e.start : Int) ≤ a.start := by simpa using member.2
    omega
  refine List.pairwise_append.2 ⟨ascending.sublist (List.take_sublist ..),
    List.pairwise_cons.2 ⟨after, ascending.sublist (List.drop_sublist ..)⟩,
    fun a early b late => ?_⟩
  rcases List.mem_cons.1 late with rfl | behind
  · exact before a early
  · exact Nat.lt_trans (before a early) (after b behind)

def insert (p : Patch) (e : Edit) : Except Fault Patch :=
  match taken : p.at? e.start with
  | some existing => .error (.occupied existing)
  | none => .ok ⟨(p.inserted e).toArray, inserted_ordered taken⟩

/-- Only an edit equal in start, stop and text is given up. -/
def erase (p : Patch) (e : Edit) : Except Fault Patch :=
  if p.contains e then
    .ok ⟨(p.toList.eraseIdx (p.lowerBound e.start)).toArray,
      List.Pairwise.sublist (List.eraseIdx_sublist ..) p.ordered⟩
  else .error (.absent e)

end Patch
end Spacing
