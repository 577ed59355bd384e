import Spacing.Proofs.NormalForm
import Spacing.Proofs.Rendering

namespace Spacing

open Segment

structure Splice where
  start : Int
  stop : Int
  text : Text
deriving DecidableEq

def Splice.apply (text : Text) (s : Splice) : Text := text.splice s.start s.stop s.text

namespace Draft

/-- The splices that submissions ask for in turn, each counted in the text at its time. A submission
that is refused asks for none. -/
def splices (d : Draft) : List Submitted → List Splice
  | [] => []
  | s :: rest =>
    let o := d.submit s.selection s.text
    match o.result, s.selection with
    | .ok _, ⟨some start, some stop⟩ =>
      ⟨d.offset start, d.offset stop, s.text⟩ :: o.draft.splices rest
    | _, _ => o.draft.splices rest

section Normal

variable {d : Draft} (normal : d.IsNormal)
include normal

theorem map_char_changed {e : Edit} (bound : e.stop ≤ d.base.length) :
    (stretch d.base 0 d.base.length (d.changed e)).map Cell.char =
      (stretch d.base 0 e.start
          (d.pending.toList.filter fun f => f.stop < e.start)).map Cell.char ++
        e.text ++ (stretch d.base e.stop d.base.length
          (d.pending.toList.filter fun f => e.stop < f.start)).map Cell.char := by
  by_cases void : e.isVoid = true
  · -- Nothing is stored, but the base text on both sides meets where the edit would be.
    have nothing := void
    simp only [Edit.isVoid, Edit.isInsertion, Bool.and_eq_true, beq_iff_eq,
      List.isEmpty_iff] at nothing
    obtain ⟨here, empty⟩ := nothing
    have behind := placed_below normal (o := e.start)
    have ahead := placed_behind normal bound
    rw [← here] at ahead
    simp only [changed, if_pos void, List.append_nil, empty, ← here]
    rw [stretch_append behind ahead, List.map_append]
  · simp only [changed, if_neg void, List.append_assoc, List.singleton_append]
    rw [stretch_append_cons]
    simp [ofEdit, Text.slice_self]

theorem rendered_stored {r : Range} {text : Text} {c : Change} (valid : d.HasRange r)
    (suits : d.Suits r text c) {o : Draft} (origin : o.base = d.base) (after : o.IsNormal)
    (pending : o.pending.toList = d.changed c.edit) :
    o.rendered =
      (d.front r.start).map Cell.char ++ text ++ (d.back r.stop).map Cell.char := by
  have bound : c.edit.stop ≤ d.base.length := by
    rw [suits.stop_eq]
    exact trail_le normal valid.2.1
  rw [rendered_eq after, cells, origin, pending, map_char_changed normal bound, suits.text_eq,
    map_char_front normal valid.1, map_char_back, suits.start_eq, suits.stop_eq]
  simp only [List.append_assoc]

theorem submit_eq_splice {s : Selection} {text : Text} {answer : Range}
    (taken : (d.submit s text).result = .ok answer) :
    ∃ r : Range, s = r.toSelection ∧ d.HasRange r ∧ (d.submit s text).draft.rendered =
      d.rendered.splice (d.offset r.start) (d.offset r.stop) text := by
  cases submit_effect normal s text with
  | refused failure result same => simp [result] at taken
  | idle r asked valid empty nothing result same =>
    refine ⟨r, asked, valid, ?_⟩
    rw [same, nothing, empty, Text.splice, List.append_nil, List.take_append_drop]
  | stored r c asked valid covered suits result pending =>
    refine ⟨r, asked, valid, ?_⟩
    have after := normal_submit normal s text
    rw [rendered_stored normal valid suits (submit_base d s text) after pending, Text.splice,
      (rendered_cut normal valid.1).1, (rendered_cut normal valid.2.1).2]

theorem rendered_after (submissions : List Submitted) :
    (d.after submissions).rendered = (d.splices submissions).foldl Splice.apply d.rendered := by
  induction submissions generalizing d with
  | nil => rfl
  | cons s rest ih =>
    have tail := ih (normal_submit normal s.selection s.text)
    rw [after, List.foldl_cons, ← after, tail, splices]
    cases result : (d.submit s.selection s.text).result with
    | error failure => simp only [submit_of_error normal result]
    | ok answer =>
      obtain ⟨r, asked, _, spliced⟩ := submit_eq_splice normal result
      simp only [asked, Range.toSelection, List.foldl_cons, Splice.apply] at spliced ⊢
      rw [spliced]

end Normal

/-- Submissions refine plain splicing, one at a time and over a whole run from the base text. -/
theorem submissions_refine_splicing (base : Text) (config : Config) :
    (∀ d, Reachable base config d → ∀ s text answer, (d.submit s text).result = .ok answer →
      ∃ r : Range, s = r.toSelection ∧ 0 ≤ d.offset r.start ∧ d.offset r.start ≤ d.offset r.stop ∧
        d.offset r.stop ≤ d.rendered.length ∧
        (d.submit s text).draft.rendered =
          d.rendered.splice (d.offset r.start) (d.offset r.stop) text) ∧
      ∀ submissions, ((ofBase base config).after submissions).rendered =
        ((ofBase base config).splices submissions).foldl Splice.apply base := by
  refine ⟨fun d reached s text answer taken => ?_, fun submissions => ?_⟩
  · have normal := reached.normal
    obtain ⟨r, asked, valid, spliced⟩ := submit_eq_splice normal taken
    have forward := offset_stop_eq normal valid
    exact ⟨r, asked, offset_nonneg normal valid.1, by omega, offset_le_length normal valid.2.1,
      spliced⟩
  · exact rendered_after (normal_ofBase base config) submissions

theorem submissions_refine_splicing_joined :
    let d := (ofBase ['a', ' ', 'b'] .standard).after
      [⟨⟨some (.base 1), some (.base 1)⟩, ['\n']⟩, ⟨⟨some (.base 0), some (.base 3)⟩, []⟩]
    d.rendered = ['a', '\n', ' ', 'b'] ∧
      (d.submit ⟨some (.base 1), some (.base 2)⟩ ['\t']).draft.rendered =
        d.rendered.splice 2 3 ['\t'] := by
  intro d
  obtain ⟨answer, taken⟩ : ∃ answer,
      (d.submit ⟨some (.base 1), some (.base 2)⟩ ['\t']).result = .ok answer :=
    Submission.exists_ok_of_isOk (by decide +kernel)
  obtain ⟨⟨start, stop⟩, asked, _, _, _, spliced⟩ :=
    (submissions_refine_splicing ['a', ' ', 'b'] .standard).1 d (Reachable.start.after _) _ _
      answer taken
  simp only [Range.toSelection, Selection.mk.injEq, Option.some.injEq] at asked
  obtain ⟨rfl, rfl⟩ := asked
  exact ⟨by decide +kernel, spliced.trans (by decide +kernel)⟩

end Draft
end Spacing
