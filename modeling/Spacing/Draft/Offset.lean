import Spacing.Draft.Render

namespace Spacing.Draft

def shrunkBy : List Edit → Int
  | [] => 0
  | e :: rest => e.shrinkage + shrunkBy rest

theorem shrunkBy_append (first second : List Edit) :
    shrunkBy (first ++ second) = shrunkBy first + shrunkBy second := by
  induction first with
  | nil => simp [shrunkBy]
  | cons e rest ih => rw [List.cons_append, shrunkBy, shrunkBy, ih, Int.add_assoc]

/-- The number of characters of the edited text before the position. -/
def offset (d : Draft) : Position → Int
  | .base o => o - shrunkBy (d.pending.toList.filter fun e => e.stop ≤ o)
  | .within e k => e.start - shrunkBy (d.pending.toList.filter fun f => f.start < e.start) + k

end Spacing.Draft
