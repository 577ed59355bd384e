import Spacing.Draft.Rejection
import Spacing.Value.Basic

namespace Spacing

theorem Text.length_ofNat_le_iff {n digits : Nat} (some_digit : 0 < digits) :
    (ofNat n).length ≤ digits ↔ n < Nat.pow 10 digits :=
  Nat.length_toDigits_le_iff (by decide) some_digit

theorem Text.isWritable_iff {n : Int} :
    isWritable n = true ↔ (ofNat n.natAbs).length ≤ maxDigits :=
  decide_eq_true_iff.trans (length_ofNat_le_iff (by decide)).symm

theorem Text.isWritable_of_le {m n : Nat} (le : m ≤ n) (writable : isWritable n = true) :
    isWritable m = true := by
  have below : n < Nat.pow 10 maxDigits := decide_eq_true_iff.1 writable
  exact decide_eq_true_iff.2 (Nat.lt_of_le_of_lt le below)

theorem Rejection.failure_of_isWritable {reason : Rejection} (writable : reason.isWritable = true) :
    reason.failure = .rejected reason :=
  if_pos writable

theorem Rejection.isWritable_of_failure {reason told : Rejection}
    (failure : reason.failure = .rejected told) : told.isWritable = true := by
  unfold Rejection.failure at failure
  split at failure
  · next writable =>
    rw [← Failure.rejected.inj failure]
    exact writable
  · cases failure

theorem Rejection.failure_eq_unwritable {reason : Rejection} :
    reason.failure = .unwritable ↔ reason.isWritable = false := by
  unfold failure
  cases reason.isWritable <;> simp

theorem Scalar.isWritable_iff {value : Scalar} :
    value.isWritable = true ↔ ∀ n, value = .int n → Text.isWritable n = true := by
  cases value with
  | int n => simp [isWritable]
  | _ => simp [isWritable]

inductive Key.Holds : Key → Int → Prop
  | int (n : Int) : Holds (.scalar (.int n)) n
  | tuple {items : List Key} {key : Key} {n : Int} (member : key ∈ items) (inside : Holds key n) :
    Holds (.tuple items) n

/-- The integer stands in the value, among keys or items and however deep. -/
inductive Value.Holds : Value → Int → Prop
  | int (n : Int) : Holds (.scalar (.int n)) n
  | tuple {items : List Value} {item : Value} {n : Int} (member : item ∈ items)
    (inside : Holds item n) : Holds (.tuple items) n
  | list {items : List Value} {item : Value} {n : Int} (member : item ∈ items)
    (inside : Holds item n) : Holds (.list items) n
  | mapKey {entries : List (Key × Value)} {entry : Key × Value} {n : Int} (member : entry ∈ entries)
    (inside : entry.1.Holds n) : Holds (.map entries) n
  | mapValue {entries : List (Key × Value)} {entry : Key × Value} {n : Int}
    (member : entry ∈ entries) (inside : Holds entry.2 n) : Holds (.map entries) n
  | orderedKey {entries : List (Key × Value)} {entry : Key × Value} {n : Int}
    (member : entry ∈ entries) (inside : entry.1.Holds n) : Holds (.ordered entries) n
  | orderedValue {entries : List (Key × Value)} {entry : Key × Value} {n : Int}
    (member : entry ∈ entries) (inside : Holds entry.2 n) : Holds (.ordered entries) n
  | set {keys : List Key} {key : Key} {n : Int} (member : key ∈ keys) (inside : key.Holds n) :
    Holds (.set keys) n

theorem Key.areWritable_iff {keys : List Key}
    (each : ∀ key ∈ keys, (key.isWritable = true ↔ ∀ n, key.Holds n → Text.isWritable n = true)) :
    areWritable keys = true ↔ ∀ n, ∀ key ∈ keys, key.Holds n → Text.isWritable n = true := by
  induction keys with
  | nil => simp [areWritable]
  | cons key rest ih =>
    obtain ⟨first, others⟩ := List.forall_mem_cons.1 each
    simp only [areWritable, Bool.and_eq_true, first, ih others, List.forall_mem_cons]
    exact forall_and.symm

theorem Key.isWritable_iff : (key : Key) →
    (key.isWritable = true ↔ ∀ n, key.Holds n → Text.isWritable n = true)
  | .scalar value => by
    rw [isWritable, Scalar.isWritable_iff]
    constructor
    · intro each n holds
      cases holds with
      | int => exact each n rfl
    · rintro each n rfl
      exact each n (.int n)
  | .tuple items => by
    rw [isWritable, areWritable_iff fun key _ => isWritable_iff key]
    constructor
    · intro each n holds
      cases holds with
      | tuple member inside => exact each n _ member inside
    · intro each n key member inside
      exact each n (.tuple member inside)

theorem Value.areWritable_iff {values : List Value}
    (each : ∀ value ∈ values,
      (value.isWritable = true ↔ ∀ n, value.Holds n → Text.isWritable n = true)) :
    areWritable values = true ↔
      ∀ n, ∀ value ∈ values, value.Holds n → Text.isWritable n = true := by
  induction values with
  | nil => simp [areWritable]
  | cons value rest ih =>
    obtain ⟨first, others⟩ := List.forall_mem_cons.1 each
    simp only [areWritable, Bool.and_eq_true, first, ih others, List.forall_mem_cons]
    exact forall_and.symm

theorem Value.entriesAreWritable_iff {entries : List (Key × Value)}
    (each : ∀ entry ∈ entries,
      (entry.2.isWritable = true ↔ ∀ n, entry.2.Holds n → Text.isWritable n = true)) :
    entriesAreWritable entries = true ↔ ∀ n, ∀ entry ∈ entries,
      entry.1.Holds n ∨ entry.2.Holds n → Text.isWritable n = true := by
  induction entries with
  | nil => simp [entriesAreWritable]
  | cons entry rest ih =>
    obtain ⟨first, others⟩ := List.forall_mem_cons.1 each
    simp only [entriesAreWritable, Bool.and_eq_true, Key.isWritable_iff, first, ih others,
      List.forall_mem_cons, or_imp, forall_and]
    exact and_and_and_comm

theorem Value.sizeOf_snd_lt {entries : List (Key × Value)} {entry : Key × Value}
    (member : entry ∈ entries) : sizeOf entry.2 < sizeOf entries := by
  have inside := List.sizeOf_lt_of_mem member
  obtain ⟨key, value⟩ := entry
  simp only [Prod.mk.sizeOf_spec] at inside
  dsimp only
  omega

theorem Value.isWritable_iff : (value : Value) →
    (value.isWritable = true ↔ ∀ n, value.Holds n → Text.isWritable n = true)
  | .scalar value => by
    rw [isWritable, Scalar.isWritable_iff]
    constructor
    · intro each n holds
      cases holds with
      | int => exact each n rfl
    · rintro each n rfl
      exact each n (.int n)
  | .tuple items => by
    rw [isWritable, areWritable_iff fun item _ => isWritable_iff item]
    constructor
    · intro each n holds
      cases holds with
      | tuple member inside => exact each n _ member inside
    · intro each n item member inside
      exact each n (.tuple member inside)
  | .list items => by
    rw [isWritable, areWritable_iff fun item _ => isWritable_iff item]
    constructor
    · intro each n holds
      cases holds with
      | list member inside => exact each n _ member inside
    · intro each n item member inside
      exact each n (.list member inside)
  | .map entries => by
    rw [isWritable, entriesAreWritable_iff fun entry member =>
      have := sizeOf_snd_lt member
      isWritable_iff entry.2]
    constructor
    · intro each n holds
      cases holds with
      | mapKey member inside => exact each n _ member (.inl inside)
      | mapValue member inside => exact each n _ member (.inr inside)
    · rintro each n entry member (inside | inside)
      · exact each n (.mapKey member inside)
      · exact each n (.mapValue member inside)
  | .ordered entries => by
    rw [isWritable, entriesAreWritable_iff fun entry member =>
      have := sizeOf_snd_lt member
      isWritable_iff entry.2]
    constructor
    · intro each n holds
      cases holds with
      | orderedKey member inside => exact each n _ member (.inl inside)
      | orderedValue member inside => exact each n _ member (.inr inside)
    · rintro each n entry member (inside | inside)
      · exact each n (.orderedKey member inside)
      · exact each n (.orderedValue member inside)
  | .set keys => by
    rw [isWritable, Key.areWritable_iff fun key _ => Key.isWritable_iff key]
    constructor
    · intro each n holds
      cases holds with
      | set member inside => exact each n _ member inside
    · intro each n key member inside
      exact each n (.set member inside)
  | .again _ => by
    rw [isWritable]
    exact ⟨fun _ n holds => (nomatch holds), fun _ => rfl⟩

end Spacing
