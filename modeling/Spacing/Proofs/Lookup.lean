import Spacing.Draft.Query
import Spacing.Proofs.NormalForm

/-! Lookups by binary search against a scan of the list. Each lookup of a patch finds what going
through all its edits in order finds, whatever the edits cover and whatever the offsets are. It
looks at one candidate all the same, and that this candidate is the only edit in question holds for
the pending edits of a draft, which keep apart. -/
namespace Spacing

namespace Patch

theorem getElem?_upperBound (p : Patch) (offset : Int) :
    p.edits[p.upperBound offset]? = p.toList.find? fun e => offset < (e.start : Int) := by
  rw [← Array.getElem?_toList, ← List.head?_drop, ← List.head?_filter]
  exact congrArg List.head? (p.drop_upperBound offset)

theorem floor?_eq_find? (p : Patch) (offset : Int) :
    p.floor? offset = p.toList.reverse.find? fun e => (e.start : Int) ≤ offset := by
  rw [floor?_eq, List.getLast?_eq_head?_reverse, ← List.filter_reverse, List.head?_filter]

theorem replacing?_eq_filter (p : Patch) (offset : Int) :
    p.replacing? offset = (p.floor? offset).filter fun e => offset < (e.stop : Int) := by
  apply Option.ext
  intro e
  rw [replacing?, Option.filter_eq_some_iff, Option.filter_eq_some_iff]
  refine and_congr_right fun found => ?_
  have low := (floor?_eq_some_iff.1 found).2.1
  simp [Edit.replaces, low]

/-- What each lookup finds is what a scan finds. -/
theorem lookups_eq_scans (p : Patch) (offset lo hi : Int) :
    (∀ e, p.at? offset = some e ↔ e ∈ p.toList ∧ (e.start : Int) = offset) ∧
      p.floor? offset = p.toList.reverse.find? (fun e => (e.start : Int) ≤ offset) ∧
      p.ceiling? offset = p.toList.find? (fun e => offset ≤ (e.start : Int)) ∧
      p.higher? offset = p.toList.find? (fun e => offset < (e.start : Int)) ∧
      p.between lo hi =
        p.toList.filter (fun e => lo ≤ (e.start : Int) ∧ (e.stop : Int) ≤ hi) ∧
      p.replacing? offset = (p.floor? offset).filter (fun e => offset < (e.stop : Int)) ∧
      p.stoppingAt? offset = (p.floor? offset).filter fun e => (e.stop : Int) = offset := by
  refine ⟨fun e => at?_eq_some_iff, p.floor?_eq_find? offset, p.getElem?_lowerBound offset,
    p.getElem?_upperBound offset, p.between_eq lo hi, p.replacing?_eq_filter offset, ?_⟩
  rfl

/-- Overlapping edits: the floor hides the longer edit that starts before it. -/
example :
    let long : Edit := ⟨0, 9, [], by decide, by decide⟩
    let short : Edit := ⟨2, 3, [], by decide, by decide⟩
    let p : Patch := ⟨#[long, short], by decide⟩
    p.floor? 5 = some short ∧ p.replacing? 5 = none ∧ p.between 0 8 = [short] ∧
      p.between 4 1 = [] := by
  decide +kernel

end Patch

structure Sole (es : List Edit) (wanted : Edit → Prop) (found : Option Edit) : Prop where
  some_iff : ∀ e, found = some e ↔ e ∈ es ∧ wanted e
  unique : ∀ e ∈ es, ∀ f ∈ es, wanted e → wanted f → e = f
  none_iff : found = none ↔ ∀ e ∈ es, ¬ wanted e

theorem Sole.of_some_iff {es : List Edit} {wanted : Edit → Prop} {found : Option Edit}
    (some_iff : ∀ e, found = some e ↔ e ∈ es ∧ wanted e) : Sole es wanted found where
  some_iff := some_iff
  unique := by
    intro e he f hf first second
    have here := (some_iff e).2 ⟨he, first⟩
    have there := (some_iff f).2 ⟨hf, second⟩
    exact Option.some.inj (here.symm.trans there)
  none_iff := by
    rw [Option.eq_none_iff_forall_ne_some]
    constructor
    · intro missed e member holds
      exact missed e ((some_iff e).2 ⟨member, holds⟩)
    · intro nowhere e found
      obtain ⟨member, holds⟩ := (some_iff e).1 found
      exact nowhere e member holds

namespace Draft

/-- After any submissions the lookups of a draft miss no pending edit. -/
theorem lookups_complete {base : Text} {config : Config} {d : Draft}
    (reached : Reachable base config d) (offset : Int) :
    Sole d.pending.toList (fun e => (e.start : Int) ≤ offset ∧ offset < e.stop)
        (d.pending.replacing? offset) ∧
      Sole d.pending.toList (fun e => (e.stop : Int) = offset)
        (d.pending.stoppingAt? offset) ∧
      Sole d.pending.toList (fun e => (e.start : Int) ≤ offset ∧ offset ≤ e.stop)
        (d.editAt? offset) := by
  have apart := reached.normal.apart
  refine ⟨.of_some_iff fun e => ?_, .of_some_iff fun e => ?_, .of_some_iff fun e => ?_⟩
  · exact Patch.replacing?_eq_some_iff apart
  · exact Patch.stoppingAt?_eq_some_iff apart
  · exact Patch.spanning?_eq_some_iff apart

theorem lookups_complete_joined :
    let e : Edit := ⟨1, 3, ['\n', '\t'], by decide, by decide⟩
    let d := (ofBase ['a', ' ', ' ', 'b'] .standard).after
      [⟨⟨some (.base 1), some (.base 2)⟩, ['\n']⟩, ⟨⟨some (.base 2), some (.base 3)⟩, ['\t']⟩,
        ⟨⟨some (.base 4), some (.base 4)⟩, ['\n']⟩]
    d.pending.toList.length = 2 ∧ d.editAt? 3 = some e ∧ d.pending.stoppingAt? 3 = some e ∧
      d.pending.replacing? 3 = none := by
  intro e d
  obtain ⟨replacing, stopping, spanning⟩ := lookups_complete (Reachable.start.after _ :
    Reachable ['a', ' ', ' ', 'b'] .standard d) 3
  have held : e ∈ d.pending.toList := by decide +kernel
  have passed : ∀ f ∈ d.pending.toList, ¬ ((f.start : Int) ≤ 3 ∧ (3 : Int) < f.stop) := by
    decide +kernel
  exact ⟨by decide +kernel, (spanning.some_iff e).2 ⟨held, by decide, by decide⟩,
    (stopping.some_iff e).2 ⟨held, by decide⟩, replacing.none_iff.2 passed⟩

end Draft
end Spacing
