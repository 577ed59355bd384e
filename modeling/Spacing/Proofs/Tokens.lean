import Spacing.Proofs.NormalForm
import Spacing.Proofs.Rendering

namespace Spacing

open Segment

def IsToken (base : Text) (o : Nat) : Prop := ∃ c, base[o]? = some c ∧ isBlank c = false

theorem Text.IsBlank.filter_eq_nil {text : Text} (blank : text.IsBlank) :
    text.filter (fun c => !isBlank c) = [] :=
  List.filter_eq_nil_iff.2 fun c member => by simp [blank c member]

theorem filter_stretch {base : Text} {start stop : Nat} {es : List Edit}
    (placed : Placed start stop es)
    (blank : ∀ e ∈ es, (base.slice e.start e.stop).IsBlank) :
    ((stretch base start stop es).map Cell.char).filter (fun c => !isBlank c) =
      (base.slice start stop).filter fun c => !isBlank c := by
  induction es generalizing start with
  | nil => rw [stretch_nil, map_char_cells]; rfl
  | cons e rest ih =>
    have tail := ih placed.2 fun f later => blank f (by simp [later])
    have inside := (blank e (by simp)).filter_eq_nil
    rw [← base.slice_append placed.1 (Nat.le_trans e.start_le_stop placed.2.le),
      ← base.slice_append e.start_le_stop placed.2.le]
    simp only [stretch_cons, List.map_append, map_char_cells, List.filter_append, tail, inside,
      ofEdit, Text.slice_self, e.blank.filter_eq_nil, List.nil_append, List.append_nil, ofBase]

namespace Draft

section Normal

variable {d : Draft} (normal : d.IsNormal)
include normal

theorem mem_cells_of_token {o : Nat} {c : Char} (found : d.base[o]? = some c)
    (dark : isBlank c = false) : ⟨.base o, c⟩ ∈ d.cells := by
  refine (mem_cells normal).2 (Or.inl ⟨o, fun e member covered => ?_, found, rfl⟩)
  have blank := normal.blank e member c (Text.mem_slice.2 ⟨o, covered.1, covered.2, found⟩)
  simp [dark] at blank

theorem offset_lt_of_token {o p : Nat} (first : IsToken d.base o) (second : IsToken d.base p)
    (less : o < p) : d.offset (.base o) < d.offset (.base p) := by
  obtain ⟨_, here, dark⟩ := first
  obtain ⟨_, there, bold⟩ := second
  exact offset_lt_of_before normal (mem_cells_of_token normal here dark)
    (mem_cells_of_token normal there bold) (Position.anchor_base_lt_base.2 less)

theorem token_of_mem_cells {c : Cell} (member : c ∈ d.cells) (dark : isBlank c.char = false) :
    ∃ o, d.base[o]? = some c.char ∧ c.position = .base o := by
  rcases (mem_cells normal).1 member with ⟨o, _, char, named⟩ | ⟨e, _, k, char, _⟩
  · exact ⟨o, char, named⟩
  · have blank := e.blank c.char (List.mem_of_getElem? char)
    simp [dark] at blank

theorem exists_token {i : Nat} {c : Char} (found : d.rendered[i]? = some c)
    (dark : isBlank c = false) : ∃ o, IsToken d.base o ∧ d.offset (.base o) = i := by
  rw [getElem?_rendered normal, Option.map_eq_some_iff] at found
  obtain ⟨cell, found, rfl⟩ := found
  have place := offset_of_getElem? normal found
  obtain ⟨o, char, named⟩ := token_of_mem_cells normal (List.mem_of_getElem? found) dark
  exact ⟨o, ⟨cell.char, char, dark⟩, named ▸ place⟩

theorem filter_rendered :
    d.rendered.filter (fun c => !isBlank c) = d.base.filter fun c => !isBlank c := by
  rw [rendered_eq normal, cells, filter_stretch normal.placed normal.blank, Text.slice_self]

end Normal

/-- Every token keeps its position and its place among the tokens, and there are no others. -/
theorem tokens_preserved {base : Text} {config : Config} {d : Draft}
    (reached : Reachable base config d) :
    (∀ o c, base[o]? = some c → isBlank c = false →
      d.HasPosition (.base o) ∧ 0 ≤ d.offset (.base o) ∧
        d.rendered[(d.offset (.base o)).toNat]? = some c) ∧
    (∀ o p, IsToken base o → IsToken base p → o < p →
      d.offset (.base o) < d.offset (.base p)) ∧
    (∀ (i : Nat) c, d.rendered[i]? = some c → isBlank c = false →
      ∃! o, IsToken base o ∧ d.offset (.base o) = i) ∧
    d.rendered.filter (fun c => !isBlank c) = base.filter fun c => !isBlank c := by
  have normal := reached.normal
  obtain rfl := reached.base_eq
  refine ⟨fun o c found dark => ?_, fun o p first second => offset_lt_of_token normal first second,
    fun i c found dark => ?_, filter_rendered normal⟩
  · have member := mem_cells_of_token normal found dark
    exact ⟨hasPosition_of_mem_cells normal member, getElem?_rendered_of_mem_cells normal member⟩
  · obtain ⟨o, token, place⟩ := exists_token normal found dark
    refine ⟨o, ⟨token, place⟩, fun p ⟨other, same⟩ => ?_⟩
    rcases Nat.lt_trichotomy o p with less | equal | more
    · have apart := offset_lt_of_token normal token other less
      omega
    · exact equal.symm
    · have apart := offset_lt_of_token normal other token more
      omega

theorem tokens_preserved_joined :
    let d := (ofBase ['a', ' ', ' ', 'b'] .standard).after
      [⟨⟨some (.base 1), some (.base 2)⟩, ['\n']⟩, ⟨⟨some (.base 2), some (.base 3)⟩, []⟩]
    d.rendered = ['a', '\n', 'b'] ∧ ∃! o, IsToken ['a', ' ', ' ', 'b'] o ∧ d.offset (.base o) = 2 :=
  ⟨by decide +kernel, (tokens_preserved (Reachable.start.after _)).2.2.1 2 'b' (by decide +kernel)
    (by decide)⟩

end Draft
end Spacing
