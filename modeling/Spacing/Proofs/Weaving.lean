import Spacing.Proofs.Addressing

/-! The loop that renders a draft. It splices the edits into a text that has changed its length, and
so it is not plain that each slice is the one meant. Since edits keep apart, the loop stands after
some of the edits at the base text woven with these, the slice of the next edit lies inside that
text, and the outcome is what splices from the last edit to the first give without any offset. -/
namespace Spacing

open Segment

namespace Text

/-- The base text from the cursor on, each edit's text in the place of the slice it replaces. -/
def weave (base : Text) (cursor : Nat) : List Edit → Text
  | [] => base.drop cursor
  | e :: rest => base.slice cursor e.start ++ e.text ++ base.weave e.stop rest

/-- The edits carried out from the last to the first, each at its own base offsets. -/
def spliceBack (base : Text) (edits : List Edit) : Text :=
  edits.reverse.foldl (fun text e => text.splice e.start e.stop e.text) base

variable {base : Text}

theorem map_char_stretch (base : Text) (es : List Edit) (cursor : Nat) :
    (stretch base cursor base.length es).map Cell.char = base.weave cursor es := by
  induction es generalizing cursor with
  | nil => rw [stretch_nil, map_char_cells, ofBase, slice_to_end, weave]
  | cons e rest ih =>
    rw [stretch_cons, List.map_append, List.map_append, ih, weave]
    simp only [map_char_cells, ofBase, ofEdit, slice_self]

theorem splice_append (e : Edit) (bound : e.stop ≤ base.length) (rest : Text) :
    splice (base.take e.stop ++ rest) e.start e.stop e.text =
      base.take e.start ++ e.text ++ rest := by
  have order := e.start_le_stop
  have size : (base.take e.stop).length = e.stop := List.length_take_of_le bound
  have low : (base.take e.stop ++ rest).take e.start = base.take e.start := by
    rw [List.take_append_of_le_length (by omega), List.take_take, Nat.min_eq_left order]
  have high : (base.take e.stop ++ rest).drop e.stop = rest := by
    rw [List.drop_append_of_le_length (by omega), List.drop_of_length_le (by omega)]
    rfl
  rw [splice, Int.toNat_natCast, Int.toNat_natCast, low, high]

theorem spliceBack_eq {es : List Edit} {cursor : Nat} (placed : Placed cursor base.length es) :
    base.spliceBack es = base.take cursor ++ base.weave cursor es := by
  unfold spliceBack
  rw [List.foldl_reverse]
  induction es generalizing cursor with
  | nil => exact (List.take_append_drop cursor base).symm
  | cons e rest ih =>
    have front : base.take cursor ++ base.slice cursor e.start = base.take e.start := by
      have parts := base.slice_append (Nat.zero_le cursor) placed.1
      simpa [slice] using parts
    rw [List.foldr_cons, ih placed.2, splice_append e placed.2.le, weave, ← front]
    simp only [List.append_assoc]

end Text

/-- After the first edits the loop stands at the base text woven with them. -/
theorem foldl_splice_base {base : Text} {es : List Edit} (placed : Placed 0 base.length es) :
    es.foldl Rendering.splice ⟨base, 0⟩ = ⟨base.weave 0 es, Draft.shrunkBy es⟩ := by
  have run := @foldl_splice base es [] 0 0 placed rfl
  rw [Text.map_char_stretch, List.nil_append, List.nil_append, List.drop_zero, Int.zero_add] at run
  exact run

namespace Draft

/-- Where reading the whole edited text begins: an edit at the very start comes before the base. -/
def firstPosition (d : Draft) : Position :=
  match d.pending.toList with
  | [] => .base 0
  | e :: _ => if e.start = 0 then .within e 0 else .base 0

def whole (d : Draft) : Range := ⟨d.firstPosition, .base d.base.length⟩

section Normal

variable {d : Draft} (normal : d.IsNormal)
include normal

theorem splice_in_bounds {before after : List Edit} {e : Edit}
    (split : d.pending.toList = before ++ e :: after) :
    let done := before.foldl Rendering.splice ⟨d.base, 0⟩
    0 ≤ (e.start : Int) - done.shrunk ∧ (e.start : Int) - done.shrunk ≤ e.stop - done.shrunk ∧
      (e.stop : Int) - done.shrunk ≤ done.text.length := by
  have apart := normal.apart
  have order := e.start_le_stop
  have bound := normal.inBase e (by simp [split])
  rw [split] at apart
  obtain ⟨apart, _, behind⟩ := List.pairwise_append.1 apart
  have near : Placed 0 e.start before := by
    refine .of_apart (Nat.zero_le _) apart (fun _ _ => Nat.zero_le _) fun f member => ?_
    exact Nat.le_of_lt (behind f member e (by simp))
  have far : Placed 0 d.base.length before := by
    refine .of_apart (Nat.zero_le _) apart (fun _ _ => Nat.zero_le _) fun f member => ?_
    exact normal.inBase f (by simp [split, member])
  -- The part of the text in front of the edit has no negative length, which bounds what has been
  -- taken away; the whole of it is as much shorter than the base.
  have front : ((stretch d.base 0 e.start before).length : Int) = _ :=
    length_stretch near (by omega)
  have all : ((stretch d.base 0 d.base.length before).length : Int) = _ :=
    length_stretch far (Nat.le_refl _)
  have size := congrArg List.length (Text.map_char_stretch d.base before 0)
  rw [List.length_map] at size
  rw [foldl_splice_base far]
  dsimp only
  omega

theorem firstPosition_cases :
    (∃ e ∈ d.pending.toList, e.start = 0 ∧ d.firstPosition = .within e 0) ∨
      (∀ e ∈ d.pending.toList, 0 < e.start) ∧ d.firstPosition = .base 0 := by
  cases pending : d.pending.toList with
  | nil => exact Or.inr ⟨by simp, by simp only [firstPosition, pending]⟩
  | cons e rest =>
    by_cases start : e.start = 0
    · exact Or.inl ⟨e, by simp, start, by simp only [firstPosition, pending, if_pos start]⟩
    · have ascending := ascending_of_apart normal.apart
      rw [pending] at ascending
      refine Or.inr ⟨fun f member => ?_, by simp only [firstPosition, pending, if_neg start]⟩
      rcases List.mem_cons.1 member with rfl | later
      · omega
      · have less := (List.pairwise_cons.1 ascending).1 f later
        omega

theorem hasPosition_firstPosition : d.HasPosition d.firstPosition := by
  rcases firstPosition_cases normal with ⟨e, held, _, first⟩ | ⟨ahead, first⟩
  · rw [first, hasPosition_within]
    exact ⟨held, Nat.zero_le _⟩
  · rw [first, hasPosition_base normal]
    refine ⟨Nat.zero_le _, fun e member covered => ?_⟩
    have start := ahead e member
    omega

theorem offset_firstPosition : d.offset d.firstPosition = 0 := by
  rcases firstPosition_cases normal with ⟨e, held, start, first⟩ | ⟨ahead, first⟩
  · have none : (d.pending.toList.filter fun f => f.start < e.start) = [] :=
      List.filter_eq_nil_iff.2 fun f _ => by simp [start]
    rw [first, offset, none, start]
    rfl
  · have none : (d.pending.toList.filter fun e => e.stop ≤ 0) = [] := by
      refine List.filter_eq_nil_iff.2 fun e member => ?_
      have start := ahead e member
      have order := e.start_le_stop
      simp only [decide_eq_true_eq]
      omega
    rw [first, offset, none]
    rfl

theorem hasRange_whole : d.HasRange d.whole := by
  refine ⟨hasPosition_firstPosition normal, hasPosition_end normal, ?_⟩
  rw [Anchor.le_iff_not_lt]
  rcases firstPosition_cases normal with ⟨e, held, _, first⟩ | ⟨_, first⟩
  · rw [whole, first, Position.anchor_base_lt_within]
    omega
  · rw [whole, first, Position.anchor_base_lt_base]
    omega

theorem textOf_whole : textOf (d.segments d.whole) = d.rendered := by
  have spelled := slice_rendered normal (hasRange_whole normal)
  have start : d.offset d.whole.start = 0 := offset_firstPosition normal
  have stop : d.offset d.whole.stop = d.rendered.length := offset_end normal
  rw [start, stop, Int.toNat_natCast, Int.toNat_zero, Text.slice_self] at spelled
  exact spelled.symm

end Normal

/-- The loop weaves the edits into the base text and never slices outside the text it has made. -/
theorem rendering_weaves_edits {base : Text} {config : Config} {d : Draft}
    (reached : Reachable base config d) :
    d.rendered = base.weave 0 d.pending.toList ∧
      d.rendered = base.spliceBack d.pending.toList ∧
      (∀ before e after, d.pending.toList = before ++ e :: after →
        let done := before.foldl Rendering.splice ⟨base, 0⟩
        0 ≤ (e.start : Int) - done.shrunk ∧ (e.start : Int) - done.shrunk ≤ e.stop - done.shrunk ∧
          (e.stop : Int) - done.shrunk ≤ done.text.length) ∧
      d.HasRange d.whole ∧ textOf (d.segments d.whole) = d.rendered := by
  have normal := reached.normal
  obtain rfl := reached.base_eq
  have woven : d.rendered = d.base.weave 0 d.pending.toList :=
    congrArg Rendering.text (foldl_splice_base normal.placed)
  refine ⟨woven, ?_, ?_, hasRange_whole normal, textOf_whole normal⟩
  · rw [Text.spliceBack_eq normal.placed, woven]
    rfl
  · intro before e after split
    exact splice_in_bounds normal split

theorem rendering_weaves_edits_joined :
    let d := (ofBase ['a', ' ', ' ', 'b', ' '] .standard).after
      [⟨⟨some (.base 0), some (.base 0)⟩, ['\n', '\t']⟩, ⟨⟨some (.base 1), some (.base 3)⟩, ['\n']⟩,
        ⟨⟨some (.base 4), some (.base 5)⟩, []⟩]
    d.pending.toList.length = 3 ∧ d.rendered = ['\n', '\t', 'a', '\n', 'b'] ∧
      d.rendered = Text.spliceBack ['a', ' ', ' ', 'b', ' '] d.pending.toList ∧
      textOf (d.segments d.whole) = d.rendered := by
  intro d
  obtain ⟨_, back, _, _, read⟩ := rendering_weaves_edits (Reachable.start.after _ :
    Reachable ['a', ' ', ' ', 'b', ' '] .standard d)
  exact ⟨by decide +kernel, by decide +kernel, back, read⟩

end Draft
end Spacing
