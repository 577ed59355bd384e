import Spacing.Patch.Lookup
import Spacing.Proofs.Apart

namespace Spacing

namespace Patch

theorem ascending (p : Patch) : p.toList.Pairwise fun a b => a.start < b.start := p.ordered

theorem floor?_eq (p : Patch) (offset : Int) :
    p.floor? offset = (p.toList.filter fun e => (e.start : Int) ≤ offset).getLast? := by
  have within : p.upperBound offset ≤ p.toList.length := partitionPoint_le_size ..
  rw [← take_upperBound, List.getLast?_take, floor?]
  cases count : p.upperBound offset with
  | zero => simp
  | succ n =>
    have small : n < p.toList.length := by omega
    simp only [toList, Array.length_toList] at small ⊢
    simp [small]

theorem floor?_eq_some_iff {p : Patch} {offset : Int} {e : Edit} :
    p.floor? offset = some e ↔ e ∈ p.toList ∧ (e.start : Int) ≤ offset ∧
      ∀ f ∈ p.toList, (f.start : Int) ≤ offset → f.start ≤ e.start := by
  have forward : ∀ {e}, p.floor? offset = some e → e ∈ p.toList ∧ (e.start : Int) ≤ offset ∧
      ∀ f ∈ p.toList, (f.start : Int) ≤ offset → f.start ≤ e.start := by
    intro e found
    rw [floor?_eq, List.getLast?_eq_some_iff] at found
    obtain ⟨earlier, split⟩ := found
    have member : e ∈ p.toList.filter fun e => (e.start : Int) ≤ offset := by simp [split]
    have sorted := p.ascending.sublist
      (List.filter_sublist (p := fun e => (e.start : Int) ≤ offset))
    rw [split] at sorted
    have last := (List.pairwise_append.1 sorted).2.2
    refine ⟨(List.mem_filter.1 member).1, by simpa using (List.mem_filter.1 member).2, ?_⟩
    intro f present low
    have kept : f ∈ p.toList.filter fun e => (e.start : Int) ≤ offset :=
      List.mem_filter.2 ⟨present, by simpa using low⟩
    rw [split] at kept
    rcases List.mem_append.1 kept with early | late
    · exact Nat.le_of_lt (last f early e (by simp))
    · simp [List.mem_singleton.1 late]
  refine ⟨forward, fun ⟨member, low, greatest⟩ => ?_⟩
  cases found : p.floor? offset with
  | none =>
    rw [floor?_eq, List.getLast?_eq_none_iff, List.filter_eq_nil_iff] at found
    exact absurd (by simpa using low) (found e member)
  | some g =>
    obtain ⟨present, reached, most⟩ := forward found
    have lower := greatest g present reached
    have upper := most e member low
    rw [eq_of_start_eq present member (by omega)]

theorem between_eq (p : Patch) (lo hi : Int) :
    p.between lo hi = p.toList.filter fun e => lo ≤ (e.start : Int) ∧ (e.stop : Int) ≤ hi := by
  have cut : (p.edits.extract (p.lowerBound lo) (p.upperBound hi)).toList =
      (p.toList.drop (p.lowerBound lo)).take (p.upperBound hi - p.lowerBound lo) := by
    simp [toList, List.extract_eq_take_drop]
  rw [between, cut]
  refine eq_of_ascending (((p.ascending.sublist (List.drop_sublist ..)).sublist
    (List.take_sublist ..)).sublist List.filter_sublist)
    (p.ascending.sublist List.filter_sublist) fun e => ?_
  simp only [List.mem_filter, decide_eq_true_eq]
  constructor
  · rintro ⟨member, high⟩
    have low := List.mem_of_mem_take member
    rw [drop_lowerBound, List.mem_filter] at low
    exact ⟨low.1, by simpa using low.2, high⟩
  · rintro ⟨member, low, high⟩
    refine ⟨?_, high⟩
    have reached : e ∈ p.toList.drop (p.lowerBound lo) := by
      rw [drop_lowerBound]
      exact List.mem_filter.2 ⟨member, by simpa using low⟩
    rw [← List.take_append_drop (p.upperBound hi - p.lowerBound lo) (p.toList.drop _)] at reached
    rcases List.mem_append.1 reached with inside | beyond
    · exact inside
    · -- Past the upper bound every start is above `hi`, so the edit cannot stop there.
      rw [List.drop_drop] at beyond
      have past : e ∈ p.toList.drop (p.upperBound hi) :=
        (List.drop_sublist_drop_left p.toList (by omega)).subset beyond
      rw [drop_upperBound, List.mem_filter] at past
      have above : hi < (e.start : Int) := by simpa using past.2
      have ordered := e.start_le_stop
      omega

section Apart

variable {p : Patch} (apart : p.toList.Pairwise fun a b => a.stop < b.start)
include apart

theorem floor?_of_reaches {offset : Int} {e : Edit} (member : e ∈ p.toList)
    (low : (e.start : Int) ≤ offset) (high : offset ≤ (e.stop : Int)) :
    p.floor? offset = some e := by
  refine floor?_eq_some_iff.2 ⟨member, low, fun f present reached => ?_⟩
  have ordered := f.start_le_stop
  rcases apart_or apart member present with rfl | before | after
  · exact Nat.le_refl _
  · omega
  · omega

theorem replacing?_eq_some_iff {offset : Int} {e : Edit} :
    p.replacing? offset = some e ↔
      e ∈ p.toList ∧ (e.start : Int) ≤ offset ∧ offset < (e.stop : Int) := by
  simp only [replacing?, Option.filter_eq_some_iff, Edit.replaces, Bool.and_eq_true,
    decide_eq_true_eq]
  constructor
  · rintro ⟨found, low, high⟩
    exact ⟨(floor?_eq_some_iff.1 found).1, low, high⟩
  · rintro ⟨member, low, high⟩
    exact ⟨floor?_of_reaches apart member low (by omega), low, high⟩

theorem replacing?_eq_none_iff {offset : Int} :
    p.replacing? offset = none ↔
      ∀ e ∈ p.toList, ¬ ((e.start : Int) ≤ offset ∧ offset < (e.stop : Int)) := by
  rw [Option.eq_none_iff_forall_ne_some]
  refine forall_congr' fun e => ?_
  rw [ne_eq, replacing?_eq_some_iff apart, not_and]

theorem stoppingAt?_eq_some_iff {offset : Int} {e : Edit} :
    p.stoppingAt? offset = some e ↔ e ∈ p.toList ∧ (e.stop : Int) = offset := by
  have ordered := e.start_le_stop
  simp only [stoppingAt?, Option.filter_eq_some_iff, beq_iff_eq]
  constructor
  · rintro ⟨found, exact⟩
    exact ⟨(floor?_eq_some_iff.1 found).1, exact⟩
  · rintro ⟨member, exact⟩
    exact ⟨floor?_of_reaches apart member (by omega) (by omega), exact⟩

theorem stoppingAt?_eq_none_iff {offset : Int} :
    p.stoppingAt? offset = none ↔ ∀ e ∈ p.toList, (e.stop : Int) ≠ offset := by
  rw [Option.eq_none_iff_forall_ne_some]
  refine forall_congr' fun e => ?_
  rw [ne_eq, stoppingAt?_eq_some_iff apart, not_and]

theorem spanning?_eq_some_iff {offset : Int} {e : Edit} :
    p.spanning? offset = some e ↔
      e ∈ p.toList ∧ (e.start : Int) ≤ offset ∧ offset ≤ (e.stop : Int) := by
  simp only [spanning?, Option.filter_eq_some_iff, Edit.spans, Bool.and_eq_true,
    decide_eq_true_eq]
  constructor
  · rintro ⟨found, low, high⟩
    exact ⟨(floor?_eq_some_iff.1 found).1, low, high⟩
  · rintro ⟨member, low, high⟩
    exact ⟨floor?_of_reaches apart member low high, low, high⟩

end Apart

theorem mem_inserted {p : Patch} {e f : Edit} : f ∈ p.inserted e ↔ f = e ∨ f ∈ p.toList := by
  have whole := List.take_append_drop (p.lowerBound e.start) p.toList
  simp only [inserted, List.mem_append, List.mem_cons]
  conv => rhs; rw [← whole, List.mem_append]
  exact or_left_comm

theorem insert_eq_ok {p : Patch} {e : Edit} (free : ∀ f ∈ p.toList, f.start ≠ e.start) :
    ∃ q, p.insert e = .ok q ∧ ∀ f, f ∈ q.toList ↔ f = e ∨ f ∈ p.toList := by
  have vacant : p.at? e.start = none :=
    at?_eq_none_iff.2 fun f member same => free f member (by omega)
  unfold insert
  split
  · next existing taken => simp [vacant] at taken
  · exact ⟨_, rfl, fun f => by simpa [toList] using mem_inserted⟩

theorem erase_eq_ok {p : Patch} {e : Edit} (member : e ∈ p.toList) :
    ∃ q, p.erase e = .ok q ∧ ∀ f, f ∈ q.toList ↔ f ∈ p.toList ∧ f ≠ e := by
  have held : p.contains e = true := contains_iff.2 member
  refine ⟨_, if_pos held, fun f => ?_⟩
  have place : p.toList[p.lowerBound e.start]? = some e := by
    have found := at?_eq_some_iff.2 ⟨member, rfl⟩
    rw [at?, Option.filter_eq_some_iff] at found
    simpa [toList] using found.1
  change f ∈ (p.toList.eraseIdx (p.lowerBound e.start)).toArray.toList ↔ _
  rw [List.toList_toArray, List.mem_eraseIdx_iff_getElem?]
  constructor
  · rintro ⟨i, other, found⟩
    refine ⟨List.mem_of_getElem? found, fun same => other ?_⟩
    subst same
    exact (List.getElem?_inj (List.getElem?_eq_some_iff.1 found).1
      (nodup_of_ascending p.ascending)).1 (found.trans place.symm)
  · rintro ⟨present, other⟩
    obtain ⟨i, found⟩ := List.getElem?_of_mem present
    refine ⟨i, fun same => other ?_, found⟩
    subst same
    exact Option.some.inj (found.symm.trans place)

theorem insert_eq_error {p : Patch} {e f : Edit} (taken : p.at? e.start = some f) :
    p.insert e = .error (.occupied f) := by
  unfold insert
  split
  · next existing found => rw [Option.some.inj (found.symm.trans taken)]
  · next free => simp [taken] at free

theorem erase_eq_error {p : Patch} {e : Edit} (absent : p.at? e.start ≠ some e) :
    p.erase e = .error (.absent e) := by
  have missing : ¬ p.contains e = true := by simpa [contains] using absent
  exact if_neg missing

end Patch
end Spacing
