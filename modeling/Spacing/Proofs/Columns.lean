import Mathlib.Data.List.InsertIdx
import Spacing.Patch.Columns
import Spacing.Proofs.Patch

namespace Spacing

namespace Patch

variable {p : Patch} {e : Edit}

theorem starts_columns (p : Patch) : p.columns.starts.toList = p.toList.map Edit.start :=
  Array.toList_map

theorem partitioned_starts {q : Nat → Bool} (down : ∀ {a b}, a < b → q b = true → q a = true) :
    Partitioned p.columns.starts q := by
  rw [Partitioned, starts_columns, List.pairwise_map]
  exact p.ascending.imp fun less => down less

theorem lowerBound_columns (p : Patch) (start : Nat) :
    p.columns.lowerBound start = p.lowerBound start := by
  have sorted : Partitioned p.columns.starts fun s => s < start :=
    partitioned_starts fun less below => by simp only [decide_eq_true_eq] at *; omega
  rw [Columns.lowerBound, lowerBound, partitionPoint_eq_countP _ _ sorted,
    partitionPoint_eq_countP _ _ (p.lowerBound_partitioned start), starts_columns, List.countP_map]
  apply List.countP_congr
  intro f _
  simp

theorem upperBound_columns (free : p.at? e.start = none) :
    p.columns.upperBound e.start = p.lowerBound e.start := by
  have sorted : Partitioned p.columns.starts fun s => s ≤ e.start :=
    partitioned_starts fun less below => by simp only [decide_eq_true_eq] at *; omega
  rw [Columns.upperBound, lowerBound, partitionPoint_eq_countP _ _ sorted,
    partitionPoint_eq_countP _ _ (p.lowerBound_partitioned e.start), starts_columns,
    List.countP_map]
  apply List.countP_congr
  intro f member
  have other := at?_eq_none_iff.1 free f member
  simp only [Function.comp_apply, decide_eq_true_eq]
  omega

theorem at?_eq_some_iff_getElem? {start : Nat} :
    p.at? start = some e ↔ p.edits[p.lowerBound start]? = some e ∧ e.start = start := by
  rw [at?, Option.filter_eq_some_iff, beq_iff_eq, Int.natCast_inj]

theorem getElem?_starts_columns {start : Nat} :
    p.columns.starts[p.lowerBound start]? = some start ↔ ∃ f, p.at? start = some f := by
  simp only [columns, Array.getElem?_map, Option.map_eq_some_iff, at?_eq_some_iff_getElem?]

theorem columns_insert_of_some {f : Edit} (taken : p.at? e.start = some f) :
    p.columns.insert e = (.error (.refused (.occupied f)), p.columns) := by
  have here := (at?_eq_some_iff_getElem?.1 taken).1
  have bound : p.columns.starts[p.lowerBound e.start]? = some e.start :=
    getElem?_starts_columns.2 ⟨f, taken⟩
  have read : p.columns.edits[p.lowerBound e.start]? = some f := here
  rw [Columns.insert, lowerBound_columns, if_pos bound, read]

theorem columns_insert_of_none (free : p.at? e.start = none) :
    ∃ q, p.insert e = .ok q ∧ p.columns.insert e = (.ok (), q.columns) := by
  have unbound : ¬ p.columns.starts[p.lowerBound e.start]? = some e.start := by
    rw [getElem?_starts_columns]
    simp [free]
  refine ⟨⟨(p.inserted e).toArray, inserted_ordered free⟩, ?_, ?_⟩
  · unfold insert
    split
    · next existing taken => simp [free] at taken
    · rfl
  · rw [Columns.insert, lowerBound_columns, if_neg unbound, upperBound_columns free]
    simp [Columns.put, columns, inserted, toList]

theorem columns_erase_of_mem (held : p.at? e.start = some e) :
    ∃ q, p.erase e = .ok q ∧ p.columns.erase e = (.ok (), q.columns) := by
  have here := (at?_eq_some_iff_getElem?.1 held).1
  have inside : ¬ p.lowerBound e.start = p.columns.starts.size := by
    have bound := (Array.getElem?_eq_some_iff.1 here).1
    simp only [columns, Array.size_map]
    omega
  have read : p.columns.edits[p.lowerBound e.start]? = some e := here
  have present : p.contains e = true := by rw [contains, held, beq_self_eq_true]
  refine ⟨_, if_pos present, ?_⟩
  rw [Columns.erase, lowerBound_columns, if_neg inside, read]
  simp [Columns.drop, columns, toList, List.eraseIdx_map]

theorem columns_erase_of_not_mem (absent : p.at? e.start ≠ some e) :
    p.columns.erase e = (.error (.refused (.absent e)), p.columns) := by
  rw [Columns.erase, lowerBound_columns]
  by_cases last : p.lowerBound e.start = p.columns.starts.size
  · rw [if_pos last]
  · have bound : p.lowerBound e.start < p.edits.size := by
      have within : p.lowerBound e.start ≤ p.edits.size := partitionPoint_le_size ..
      simp only [columns, Array.size_map] at last
      omega
    have read : p.edits[p.lowerBound e.start]? = some p.edits[p.lowerBound e.start] :=
      Array.getElem?_eq_getElem bound
    have other : p.edits[p.lowerBound e.start] ≠ e := by
      intro same
      rw [same] at read
      exact absent (at?_eq_some_iff_getElem?.2 ⟨read, rfl⟩)
    rw [if_neg last, columns, read]
    simp only [if_neg other]

theorem columns_update (p : Patch) (u : Update) :
    p.columns.update u =
      match p.update u with
      | .ok q => (.ok (), q.columns)
      | .error fault => (.error (.refused fault), p.columns) := by
  cases u with
  | insert e =>
    cases taken : p.at? e.start with
    | some f => rw [Columns.update, update, columns_insert_of_some taken, insert_eq_error taken]
    | none =>
      obtain ⟨q, inserted, columns⟩ := columns_insert_of_none taken
      rw [Columns.update, update, columns, inserted]
  | erase e =>
    by_cases held : p.at? e.start = some e
    · obtain ⟨q, erased, columns⟩ := columns_erase_of_mem held
      rw [Columns.update, update, columns, erased]
    · rw [Columns.update, update, columns_erase_of_not_mem held, erase_eq_error held]

end Patch
end Spacing
