import Spacing.Config.Basic
import Spacing.Segment.Basic

namespace Spacing

inductive Direction
  | forward
  | backward
deriving DecidableEq

structure Visit where
  segment : Segment
  index : Nat
  char : Char
deriving DecidableEq

def Visit.position (v : Visit) : Position := v.segment.position v.index

namespace Segment

def visits (s : Segment) : List Visit := s.text.zipIdx.map fun (c, index) => ⟨s, index, c⟩

def walk (segments : List Segment) : Direction → List Visit
  | .forward => segments.flatMap visits
  | .backward => segments.reverse.flatMap fun s => s.visits.reverse

def fold {σ : Type} (segments : List Segment) (step : σ → Char → σ) (start : σ) : σ :=
  segments.foldl (fun state s => s.text.foldl step state) start

def count (segments : List Segment) (p : Char → Bool) : Nat :=
  fold segments (fun total c => if p c then total + 1 else total) 0

theorem walk_backward (segments : List Segment) :
    walk segments .backward = (walk segments .forward).reverse := by
  simp [walk, List.reverse_flatMap, Function.comp_def]

theorem fold_eq_foldl {σ : Type} (segments : List Segment) (step : σ → Char → σ) (start : σ) :
    fold segments step start = (textOf segments).foldl step start := by
  simp [fold, textOf, List.foldl_flatMap]

theorem count_eq_countP (segments : List Segment) (p : Char → Bool) :
    count segments p = (textOf segments).countP p := by
  have counted : ∀ (text : Text) (total : Nat),
      text.foldl (fun total c => if p c then total + 1 else total) total =
        total + text.countP p := by
    intro text
    induction text with
    | nil => intro total; rfl
    | cons c rest ih =>
      intro total
      rw [List.foldl_cons, ih, List.countP_cons]
      split <;> omega
  rw [count, fold_eq_foldl, counted, Nat.zero_add]

end Segment

structure Ruler where
  blank : Nat
  column : Nat
deriving DecidableEq

/-- A tab runs to the next multiple of the tab width; any other character takes one column, and only
a space counts. -/
def Ruler.advance (tabWidth : TabWidth) (r : Ruler) (c : Char) : Ruler :=
  if c = ' ' then ⟨r.blank + 1, r.column + 1⟩
  else if c = '\t' then
    let width := tabWidth.columns - r.column % tabWidth.columns
    ⟨r.blank + width, r.column + width⟩
  else ⟨r.blank, r.column + 1⟩

def Segment.blankColumns (segments : List Segment) (tabWidth : TabWidth) : Nat :=
  (fold segments (Ruler.advance tabWidth) ⟨0, 0⟩).blank

end Spacing
