namespace Spacing

variable {α : Type}

def partitionPointIn (xs : Array α) (p : α → Bool) (lo hi : Nat) (bound : hi ≤ xs.size) : Nat :=
  if open_gap : lo < hi then
    have inside : (lo + hi) / 2 < xs.size := by omega
    if p xs[(lo + hi) / 2] then partitionPointIn xs p ((lo + hi) / 2 + 1) hi bound
    else partitionPointIn xs p lo ((lo + hi) / 2) (by omega)
  else lo
termination_by hi - lo

/-- The number of items before the first without `p`, when all with `p` come first. -/
def partitionPoint (xs : Array α) (p : α → Bool) : Nat :=
  partitionPointIn xs p 0 xs.size (Nat.le_refl _)

def Partitioned (xs : Array α) (p : α → Bool) : Prop :=
  xs.toList.Pairwise fun a b => p b = true → p a = true

theorem Partitioned.earlier {xs : Array α} {p : α → Bool} (part : Partitioned xs p) {i j : Nat}
    (before : i ≤ j) (bound : j < xs.size) (later : p xs[j] = true) :
    p (xs[i]) = true := by
  rcases Nat.lt_or_eq_of_le before with less | rfl
  · have pairs := List.pairwise_iff_getElem.1 part i j (by simp; omega) (by simpa using bound) less
    simpa using pairs (by simpa using later)
  · exact later

theorem partitionPointIn_bounds (xs : Array α) (p : α → Bool) (lo hi : Nat) (bound : hi ≤ xs.size)
    (ordered : lo ≤ hi) :
    lo ≤ partitionPointIn xs p lo hi bound ∧ partitionPointIn xs p lo hi bound ≤ hi := by
  fun_induction partitionPointIn xs p lo hi bound with
  | case1 lo hi bound gap inside holds ih => have := ih (by omega); omega
  | case2 lo hi bound gap inside fails ih => have := ih (by omega); omega
  | case3 lo hi bound closed => omega

theorem partitionPointIn_split (xs : Array α) (p : α → Bool) (part : Partitioned xs p)
    (lo hi : Nat) (bound : hi ≤ xs.size) (ordered : lo ≤ hi)
    (below : ∀ i (h : i < xs.size), i < lo → p xs[i] = true)
    (above : ∀ i (h : i < xs.size), hi ≤ i → p xs[i] = false) :
    (∀ i (h : i < xs.size), i < partitionPointIn xs p lo hi bound → p xs[i] = true) ∧
      ∀ i (h : i < xs.size), partitionPointIn xs p lo hi bound ≤ i → p xs[i] = false := by
  fun_induction partitionPointIn xs p lo hi bound with
  | case1 lo hi bound gap inside holds ih =>
    refine ih (by omega) (fun i h less => ?_) above
    exact part.earlier (Nat.le_of_lt_succ less) inside holds
  | case2 lo hi bound gap inside fails ih =>
    refine ih (by omega) below (fun i h least => ?_)
    cases value : p xs[i] with
    | false => rfl
    | true => exact absurd (part.earlier least h value) fails
  | case3 lo hi bound closed =>
    have same : lo = hi := by omega
    exact ⟨below, same ▸ above⟩

theorem partitionPoint_le_size (xs : Array α) (p : α → Bool) : partitionPoint xs p ≤ xs.size :=
  (partitionPointIn_bounds xs p 0 xs.size (Nat.le_refl _) (Nat.zero_le _)).2

theorem partitionPoint_split (xs : Array α) (p : α → Bool) (part : Partitioned xs p) :
    (∀ i (h : i < xs.size), i < partitionPoint xs p → p xs[i] = true) ∧
      ∀ i (h : i < xs.size), partitionPoint xs p ≤ i → p xs[i] = false :=
  partitionPointIn_split xs p part 0 xs.size (Nat.le_refl _) (Nat.zero_le _)
    (fun _ _ less => absurd less (Nat.not_lt_zero _)) (fun _ h least => absurd h (by omega))

theorem take_partitionPoint (xs : Array α) (p : α → Bool) (part : Partitioned xs p) :
    xs.toList.take (partitionPoint xs p) = xs.toList.filter p ∧
      xs.toList.drop (partitionPoint xs p) = xs.toList.filter (fun x => !p x) := by
  have split := partitionPoint_split xs p part
  have first : ∀ x ∈ xs.toList.take (partitionPoint xs p), p x = true := by
    intro x member
    obtain ⟨i, bound, rfl⟩ := List.mem_take_iff_getElem.1 member
    have small : i < xs.size := by simp at bound; omega
    simpa using split.1 i small (by omega)
  have second : ∀ x ∈ xs.toList.drop (partitionPoint xs p), p x = false := by
    intro x member
    obtain ⟨i, bound, rfl⟩ := List.mem_drop_iff_getElem.1 member
    have small : partitionPoint xs p + i < xs.size := by simp at bound; omega
    simpa using split.2 _ small (by omega)
  have whole := List.take_append_drop (partitionPoint xs p) xs.toList
  constructor
  · conv => rhs; rw [← whole, List.filter_append]
    rw [List.filter_eq_self.2 first, List.filter_eq_nil_iff.2 (by simpa using second),
      List.append_nil]
  · conv => rhs; rw [← whole, List.filter_append]
    rw [List.filter_eq_nil_iff.2 (by simpa using first),
      List.filter_eq_self.2 (by simpa using second), List.nil_append]

theorem partitionPoint_eq_countP (xs : Array α) (p : α → Bool) (part : Partitioned xs p) :
    partitionPoint xs p = xs.toList.countP p := by
  have bound := partitionPoint_le_size xs p
  rw [List.countP_eq_length_filter, ← (take_partitionPoint xs p part).1, List.length_take,
    Array.length_toList]
  omega

end Spacing
