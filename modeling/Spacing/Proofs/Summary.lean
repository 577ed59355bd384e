import Spacing.Proofs.Removal

namespace Spacing

theorem shrunkBy_eq (es : List Edit) : Draft.shrunkBy es = (removedBy es : Int) - addedBy es := by
  induction es with
  | nil => rfl
  | cons e rest ih =>
    have order := e.start_le_stop
    simp only [Draft.shrunkBy, removedBy, addedBy, Edit.shrinkage, ih]
    omega

theorem Edit.length_pos_of_isInsertion {e : Edit} (solid : e.isVoid = false)
    (insertion : e.isInsertion = true) : 0 < e.text.length := by
  have filled : e.text.isEmpty = false := by simpa [isVoid, insertion] using solid
  exact List.length_pos_iff.2 (List.isEmpty_eq_false_iff.1 filled)

theorem Edit.start_lt_stop_of_not_isInsertion {e : Edit} (wide : e.isInsertion = false) :
    e.start < e.stop := by
  have order := e.start_le_stop
  have other : e.start ≠ e.stop := by simpa [isInsertion] using wide
  omega

theorem length_eq_kinds (es : List Edit) :
    es.length = es.countP (fun e => e.isInsertion) +
      es.countP (fun e => !e.isInsertion && e.text.isEmpty) +
      es.countP (fun e => !e.isInsertion && !e.text.isEmpty) := by
  induction es with
  | nil => rfl
  | cons e rest ih =>
    simp only [List.length_cons, List.countP_cons, ih]
    cases e.isInsertion with
    | true => grind
    | false => cases e.text.isEmpty <;> grind

theorem writers_le_addedBy {es : List Edit} (solid : ∀ e ∈ es, e.isVoid = false) :
    es.countP (fun e => e.isInsertion) + es.countP (fun e => !e.isInsertion && !e.text.isEmpty) ≤
      addedBy es := by
  induction es with
  | nil => exact Nat.le_refl 0
  | cons e rest ih =>
    have tail := ih fun f later => solid f (List.mem_cons_of_mem e later)
    simp only [List.countP_cons, addedBy]
    cases insertion : e.isInsertion with
    | true =>
      have writes := e.length_pos_of_isInsertion (solid e List.mem_cons_self) insertion
      grind
    | false =>
      cases empty : e.text.isEmpty with
      | true => grind
      | false =>
        have writes := List.length_pos_iff.2 (List.isEmpty_eq_false_iff.1 empty)
        grind

theorem removers_le_removedBy (es : List Edit) :
    es.countP (fun e => !e.isInsertion && e.text.isEmpty) +
      es.countP (fun e => !e.isInsertion && !e.text.isEmpty) ≤ removedBy es := by
  induction es with
  | nil => exact Nat.le_refl 0
  | cons e rest ih =>
    simp only [List.countP_cons, removedBy]
    cases insertion : e.isInsertion with
    | true => grind
    | false =>
      have wide := e.start_lt_stop_of_not_isInsertion insertion
      cases e.text.isEmpty <;> grind

namespace Draft

variable {d : Draft}

theorem length_rendered (normal : d.IsNormal) :
    (d.rendered.length : Int) = d.base.length - shrunkBy d.pending.toList := by
  have size := length_stretch normal.placed (Nat.le_refl _)
  rw [rendered_eq normal, List.length_map]
  unfold cells
  omega

/-- The summary tells the length of the edited text, the base positions that are gone and the edits
of each kind. -/
theorem summary_agrees_with_rendered {base : Text} {config : Config}
    (reached : Reachable base config d) :
    (d.rendered.length : Int) = base.length - d.summary.netDelta ∧
      d.summary.netDelta = d.summary.removed - d.summary.added ∧
      d.summary.removed =
        (List.range base.length).countP (fun o => ¬ d.HasPosition (.base o)) ∧
      d.summary.edits =
        d.summary.insertions + d.summary.deletions + d.summary.replacements ∧
      d.summary.insertions + d.summary.replacements ≤ d.summary.added ∧
      d.summary.deletions + d.summary.replacements ≤ d.summary.removed := by
  have normal := reached.normal
  obtain rfl := reached.base_eq
  refine ⟨?_, rfl, summary_removed normal, ?_, ?_, ?_⟩
  · rw [length_rendered normal, shrunkBy_eq]
    rfl
  · exact length_eq_kinds d.pending.toList
  · exact writers_le_addedBy normal.solid
  · exact removers_le_removedBy d.pending.toList

theorem summary_agrees_with_rendered_joined :
    let d := (ofBase ['a', ' ', ' ', 'b', ' ', ' ', ' '] .standard).after
      [⟨⟨some (.base 0), some (.base 0)⟩, ['\n']⟩, ⟨⟨some (.base 2), some (.base 2)⟩, ['\t']⟩,
        ⟨⟨some (.base 1), some (.base 3)⟩, ['\n', '\t', '\t']⟩,
        ⟨⟨some (.base 4), some (.base 7)⟩, []⟩]
    d.summary = ⟨3, 5, 4, 1, 1, 1, 1⟩ ∧
      d.rendered = ['\n', 'a', '\n', '\t', '\t', 'b'] ∧
      (d.rendered.length : Int) = 7 - d.summary.netDelta ∧
      d.summary.removed = (List.range 7).countP (fun o => ¬ d.HasPosition (.base o)) := by
  intro d
  obtain ⟨length, _, gone, _⟩ := summary_agrees_with_rendered (Reachable.start.after _ :
    Reachable ['a', ' ', ' ', 'b', ' ', ' ', ' '] .standard d)
  exact ⟨by decide +kernel, by decide +kernel, length, gone⟩

end Draft
end Spacing
