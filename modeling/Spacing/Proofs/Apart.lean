import Mathlib.Data.List.Pairwise
import Spacing.Edit

/-! Lists of edits that keep apart, each stopping before the next one starts. Such a list is
determined by its members, and it can be cut at one of its edits and at every base offset that
survives all of them. -/
namespace Spacing

theorem nodup_of_ascending {es : List Edit} (ascending : es.Pairwise fun a b => a.start < b.start) :
    es.Nodup :=
  ascending.imp fun less equal => by simp [equal] at less

theorem eq_of_ascending {es fs : List Edit} (first : es.Pairwise fun a b => a.start < b.start)
    (second : fs.Pairwise fun a b => a.start < b.start) (same : ∀ e, e ∈ es ↔ e ∈ fs) :
    es = fs := by
  have perm : es.Perm fs :=
    (List.perm_ext_iff_of_nodup (nodup_of_ascending first) (nodup_of_ascending second)).2 same
  refine perm.eq_of_pairwise ?_ first second
  intro a b _ _ less more
  omega

theorem ascending_of_apart {es : List Edit} (apart : es.Pairwise fun a b => a.stop < b.start) :
    es.Pairwise fun a b => a.start < b.start :=
  apart.imp fun {a _} gap => Nat.lt_of_le_of_lt a.start_le_stop gap

theorem apart_or {es : List Edit} (apart : es.Pairwise fun a b => a.stop < b.start) {e f : Edit}
    (he : e ∈ es) (hf : f ∈ es) : e = f ∨ e.stop < f.start ∨ f.stop < e.start := by
  by_cases same : e = f
  · exact Or.inl same
  · have symmetric : Std.Symm fun a b : Edit => a.stop < b.start ∨ b.stop < a.start :=
      ⟨fun _ _ => Or.symm⟩
    have either : es.Pairwise fun a b => a.stop < b.start ∨ b.stop < a.start := apart.imp Or.inl
    exact Or.inr (either.forall he hf same)

theorem filter_filter_of_imp {es : List Edit} {p q : Edit → Bool}
    (narrow : ∀ e ∈ es, p e = true → q e = true) : (es.filter q).filter p = es.filter p := by
  rw [List.filter_filter]
  refine List.filter_congr fun e member => ?_
  rw [Bool.eq_iff_iff, Bool.and_eq_true]
  exact and_iff_left_of_imp (narrow e member)

/-- Edits in order that lie in `[start, stop]`, each from where the one before it stops. -/
def Placed (start stop : Nat) : List Edit → Prop
  | [] => start ≤ stop
  | e :: rest => start ≤ e.start ∧ Placed e.stop stop rest

theorem Placed.le {start stop : Nat} {es : List Edit} (placed : Placed start stop es) :
    start ≤ stop := by
  induction es generalizing start with
  | nil => exact placed
  | cons e rest ih => exact Nat.le_trans placed.1 (Nat.le_trans e.start_le_stop (ih placed.2))

theorem Placed.of_apart {start stop : Nat} {es : List Edit} (ordered : start ≤ stop)
    (apart : es.Pairwise fun a b => a.stop < b.start) (low : ∀ e ∈ es, start ≤ e.start)
    (high : ∀ e ∈ es, e.stop ≤ stop) : Placed start stop es := by
  induction es generalizing start with
  | nil => exact ordered
  | cons e rest ih =>
    obtain ⟨later, apart⟩ := List.pairwise_cons.1 apart
    refine ⟨low e (by simp), ih (high e (by simp)) apart (fun f member => ?_) fun f member => ?_⟩
    · exact Nat.le_of_lt (later f member)
    · exact high f (by simp [member])

/-- No edit replaces the base character at the offset. -/
def Survives (es : List Edit) (offset : Nat) : Prop :=
  ∀ e ∈ es, ¬ (e.start ≤ offset ∧ offset < e.stop)

theorem Survives.of_le {start stop : Nat} {es : List Edit} (placed : Placed start stop es)
    {offset : Nat} (before : offset < start) : Survives es offset := by
  induction es generalizing start with
  | nil => simp [Survives]
  | cons e rest ih =>
    have low := placed.1
    have size := e.start_le_stop
    have tail := ih placed.2 (by omega)
    intro f member
    rcases List.mem_cons.1 member with rfl | later
    · omega
    · exact tail f later

section Cut

variable {es : List Edit} (apart : es.Pairwise fun a b => a.stop < b.start)
include apart

theorem Placed.filter {start stop : Nat} {p : Edit → Bool} (ordered : start ≤ stop)
    (inside : ∀ e ∈ es, p e = true → start ≤ e.start ∧ e.stop ≤ stop) :
    Placed start stop (es.filter p) := by
  refine .of_apart ordered (apart.filter _) ?_ ?_
  · intro e member
    exact (inside e (List.mem_filter.1 member).1 (List.mem_filter.1 member).2).1
  · intro e member
    exact (inside e (List.mem_filter.1 member).1 (List.mem_filter.1 member).2).2

theorem filter_append_of_survives {offset : Nat} (free : Survives es offset) :
    (es.filter fun e => e.stop ≤ offset) ++ (es.filter fun e => offset < e.start) = es := by
  have sorted := ascending_of_apart apart
  refine eq_of_ascending (List.pairwise_append.2 ⟨sorted.filter _, sorted.filter _, ?_⟩) sorted ?_
  · intro a first b second
    have low : a.stop ≤ offset := by simpa using (List.mem_filter.1 first).2
    have high : offset < b.start := by simpa using (List.mem_filter.1 second).2
    have size := a.start_le_stop
    omega
  · intro e
    simp only [List.mem_append, List.mem_filter, decide_eq_true_eq, ← and_or_left]
    refine and_iff_left_of_imp fun member => ?_
    have spared := free e member
    omega

theorem filter_append_cons_of_mem {e : Edit} (member : e ∈ es) :
    (es.filter fun f => f.stop < e.start) ++ e :: (es.filter fun f => e.stop < f.start) = es := by
  have sorted := ascending_of_apart apart
  have size := e.start_le_stop
  refine eq_of_ascending (List.pairwise_append.2 ⟨sorted.filter _, List.pairwise_cons.2
    ⟨fun b later => ?_, sorted.filter _⟩, fun a first b second => ?_⟩) sorted fun f => ?_
  · have high : e.stop < b.start := by simpa using (List.mem_filter.1 later).2
    omega
  · have low : a.stop < e.start := by simpa using (List.mem_filter.1 first).2
    have start := a.start_le_stop
    rcases List.mem_cons.1 second with rfl | later
    · omega
    · have high : e.stop < b.start := by simpa using (List.mem_filter.1 later).2
      omega
  · simp only [List.mem_append, List.mem_cons, List.mem_filter, decide_eq_true_eq]
    constructor
    · rintro (⟨present, _⟩ | rfl | ⟨present, _⟩)
      · exact present
      · exact member
      · exact present
    · intro present
      rcases apart_or apart member present with rfl | later | earlier
      · exact Or.inr (Or.inl rfl)
      · exact Or.inr (Or.inr ⟨present, later⟩)
      · exact Or.inl ⟨present, earlier⟩

theorem filter_after_of_survives {cursor offset : Nat} (ahead : cursor ≤ offset)
    (free : Survives es offset) :
    ((es.filter fun e => cursor < e.start).filter fun e => e.stop ≤ offset) ++
      (es.filter fun e => offset < e.start) = es.filter fun e => cursor < e.start := by
  have free_after : Survives (es.filter fun e => cursor < e.start) offset :=
    fun e member => free e (List.mem_filter.1 member).1
  have beyond : ((es.filter fun e => cursor < e.start).filter fun e => offset < e.start) =
      es.filter fun e => offset < e.start := by
    refine filter_filter_of_imp fun e _ => ?_
    simp only [decide_eq_true_eq]
    omega
  rw [← beyond]
  exact filter_append_of_survives (apart.filter _) free_after

theorem filter_after_of_mem {cursor : Nat} {e : Edit} (member : e ∈ es)
    (ahead : cursor < e.start) :
    ((es.filter fun f => cursor < f.start).filter fun f => f.stop < e.start) ++
      e :: (es.filter fun f => e.stop < f.start) = es.filter fun f => cursor < f.start := by
  have size := e.start_le_stop
  have kept : e ∈ es.filter fun f => cursor < f.start :=
    List.mem_filter.2 ⟨member, by simpa using ahead⟩
  have beyond : ((es.filter fun f => cursor < f.start).filter fun f => e.stop < f.start) =
      es.filter fun f => e.stop < f.start := by
    refine filter_filter_of_imp fun f _ => ?_
    simp only [decide_eq_true_eq]
    omega
  rw [← beyond]
  exact filter_append_cons_of_mem (apart.filter _) kept

theorem filter_upto_of_mem {e : Edit} (member : e ∈ es) :
    (es.filter fun f => f.stop < e.start) ++ [e] = es.filter fun f => f.stop ≤ e.stop := by
  have size := e.start_le_stop
  have kept : e ∈ es.filter fun f => f.stop ≤ e.stop :=
    List.mem_filter.2 ⟨member, by simp⟩
  have behind : ((es.filter fun f => f.stop ≤ e.stop).filter fun f => f.stop < e.start) =
      es.filter fun f => f.stop < e.start := by
    refine filter_filter_of_imp fun f _ => ?_
    simp only [decide_eq_true_eq]
    omega
  have ahead : ((es.filter fun f => f.stop ≤ e.stop).filter fun f => e.stop < f.start) = [] := by
    rw [List.filter_filter, List.filter_eq_nil_iff]
    intro f _
    have order := f.start_le_stop
    simp only [Bool.and_eq_true, decide_eq_true_eq]
    omega
  have whole := filter_append_cons_of_mem (apart.filter fun f => decide (f.stop ≤ e.stop)) kept
  rwa [behind, ahead] at whole

end Cut

end Spacing
