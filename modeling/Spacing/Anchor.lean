import Spacing.Position

/-! Anchors order the positions of one draft: by base offset, then edits before base text, then by
the offset inside the edit. A base position that shares its offset with an insertion comes after
the inserted text. -/
namespace Spacing

structure Anchor where
  offset : Int
  phase : Int
  inner : Int
deriving DecidableEq

namespace Anchor

instance : LT Anchor where
  lt a b := a.offset < b.offset ∨ a.offset = b.offset ∧
    (a.phase < b.phase ∨ a.phase = b.phase ∧ a.inner < b.inner)

instance : LE Anchor where
  le a b := ¬ b < a

instance (a b : Anchor) : Decidable (a < b) :=
  inferInstanceAs (Decidable (a.offset < b.offset ∨ a.offset = b.offset ∧
    (a.phase < b.phase ∨ a.phase = b.phase ∧ a.inner < b.inner)))

instance (a b : Anchor) : Decidable (a ≤ b) := inferInstanceAs (Decidable (¬ b < a))

def sort (anchors : List Anchor) : List Anchor := anchors.mergeSort fun a b => decide (a ≤ b)

theorem lt_iff {a b : Anchor} : a < b ↔ a.offset < b.offset ∨ a.offset = b.offset ∧
    (a.phase < b.phase ∨ a.phase = b.phase ∧ a.inner < b.inner) := Iff.rfl

theorem le_iff_not_lt {a b : Anchor} : a ≤ b ↔ ¬ b < a := Iff.rfl

theorem lt_irrefl (a : Anchor) : ¬ a < a := by
  simp only [lt_iff]
  omega

theorem le_of_lt {a b : Anchor} (less : a < b) : a ≤ b := by
  simp only [lt_iff, le_iff_not_lt] at *
  omega

theorem lt_of_lt_of_le {a b c : Anchor} (first : a < b) (second : b ≤ c) : a < c := by
  simp only [lt_iff, le_iff_not_lt] at *
  omega

theorem lt_of_le_of_lt {a b c : Anchor} (first : a ≤ b) (second : b < c) : a < c := by
  simp only [lt_iff, le_iff_not_lt] at *
  omega

theorem lt_trans {a b c : Anchor} (first : a < b) (second : b < c) : a < c :=
  lt_of_lt_of_le first (le_of_lt second)

theorem lt_trichotomy (a b : Anchor) : a < b ∨ a = b ∨ b < a := by
  cases a
  cases b
  simp only [lt_iff, mk.injEq]
  omega

end Anchor

def Position.anchor : Position → Anchor
  | .base offset => ⟨offset, 1, 0⟩
  | .within e offset => ⟨e.start, 0, offset⟩

namespace Position

@[simp] theorem anchor_base_lt_base {a b : Nat} : (base a).anchor < (base b).anchor ↔ a < b := by
  simp [anchor, Anchor.lt_iff]

@[simp] theorem anchor_base_lt_within {a k : Nat} {e : Edit} :
    (base a).anchor < (within e k).anchor ↔ a < e.start := by
  simp [anchor, Anchor.lt_iff]

@[simp] theorem anchor_within_lt_base {b k : Nat} {e : Edit} :
    (within e k).anchor < (base b).anchor ↔ e.start ≤ b := by
  simp only [anchor, Anchor.lt_iff]
  omega

@[simp] theorem anchor_within_lt_within {k m : Nat} {e f : Edit} :
    (within e k).anchor < (within f m).anchor ↔ e.start < f.start ∨ e.start = f.start ∧ k < m := by
  simp only [anchor, Anchor.lt_iff, Int.natCast_inj, Int.ofNat_lt, Int.lt_irrefl, true_and,
    false_or]

end Position
end Spacing
