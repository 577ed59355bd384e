import Spacing.Config.Document
import Spacing.Proofs.Reading
import Spacing.Segment.Stops

/-! What the counts of a range measure. Write the edited text between the ends of the range out from
left to right, each tab as the spaces up to the next tab stop: the line breaks counted are those of
the text, the columns counted are the spaces of what is written. No count ever divides by a width
that is not positive. -/
namespace Spacing

open Segment

/-- The columns of a tab behind so many others: the least positive number up to a tab stop. -/
structure Gap (width filled columns : Nat) : Prop where
  positive : 0 < columns
  reaches : width ∣ filled + columns
  least : ∀ n, 0 < n → width ∣ filled + n → columns ≤ n

theorem Gap.unique {width filled m n : Nat} (first : Gap width filled m)
    (second : Gap width filled n) : m = n :=
  Nat.le_antisymm (first.least n second.positive second.reaches)
    (second.least m first.positive first.reaches)

theorem gap_sub_mod {width : Nat} (positive : 0 < width) (filled : Nat) :
    Gap width filled (width - filled % width) where
  positive := by
    have bound := Nat.mod_lt filled positive
    omega
  reaches := by
    have bound := Nat.mod_lt filled positive
    have parts := Nat.div_add_mod filled width
    refine ⟨filled / width + 1, ?_⟩
    rw [Nat.mul_succ]
    omega
  least n ample stop := by
    -- Short of the next stop the columns leave a remainder.
    have bound := Nat.mod_lt filled positive
    by_contra short
    have inside : filled % width + n < width := by omega
    have rest : (filled + n) % width = filled % width + n := by
      rw [Nat.add_mod, Nat.mod_eq_of_lt (a := n) (by omega), Nat.mod_eq_of_lt inside]
    have none := Nat.mod_eq_zero_of_dvd stop
    omega

/-- Behind what is written, writing out the text ends with the whole. -/
inductive Expands (width : Nat) : Text → Text → Text → Prop
  | done (written : Text) : Expands width written [] written
  | plain {written rest whole : Text} {c : Char} (other : c ≠ '\t')
      (after : Expands width (written ++ [c]) rest whole) :
      Expands width written (c :: rest) whole
  | tab {written rest whole : Text} {columns : Nat} (gap : Gap width written.length columns)
      (after : Expands width (written ++ List.replicate columns ' ') rest whole) :
      Expands width written ('\t' :: rest) whole

namespace Expands

theorem unique {width : Nat} {written text first second : Text}
    (one : Expands width written text first) (other : Expands width written text second) :
    first = second := by
  induction one with
  | done written =>
    cases other with
    | done => rfl
  | plain different _ ih =>
    cases other with
    | plain _ after => exact ih after
    | tab => exact absurd rfl different
  | tab gap _ ih =>
    cases other with
    | plain different => exact absurd rfl different
    | tab again after =>
      cases gap.unique again
      exact ih after

theorem exists_whole {width : Nat} (positive : 0 < width) (written text : Text) :
    ∃ whole, Expands width written text whole := by
  induction text generalizing written with
  | nil => exact ⟨written, .done written⟩
  | cons c rest ih =>
    by_cases tab : c = '\t'
    · subst tab
      obtain ⟨whole, after⟩ := ih (written ++ List.replicate _ ' ')
      exact ⟨whole, .tab (gap_sub_mod positive written.length) after⟩
    · obtain ⟨whole, after⟩ := ih (written ++ [c])
      exact ⟨whole, .plain tab after⟩

theorem foldl_advance {tabWidth : TabWidth} {written text whole : Text}
    (expands : Expands tabWidth.columns written text whole) :
    text.foldl (Ruler.advance tabWidth) ⟨written.count ' ', written.length⟩ =
      ⟨whole.count ' ', whole.length⟩ := by
  induction expands with
  | done written => rfl
  | @plain written rest whole c other after ih =>
    rw [List.foldl_cons, ← ih]
    congr 1
    by_cases space : c = ' '
    · simp [Ruler.advance, space]
    · simp [Ruler.advance, space, other]
  | @tab written rest whole columns gap after ih =>
    rw [List.foldl_cons, ← ih]
    congr 1
    cases gap.unique (gap_sub_mod tabWidth.positive written.length)
    simp [Ruler.advance]

end Expands

theorem Config.ofTabWidth_eq_ok {value : Value} {c : Config} (made : ofTabWidth value = .ok c) :
    ∃ n : Int, value = .scalar (.int n) ∧ 1 ≤ n ∧ (c.tabWidth.columns : Int) = n := by
  unfold ofTabWidth at made
  split at made
  case h_1 n =>
    by_cases positive : 0 < n
    · simp only [TabWidth.of, dif_pos positive, Except.ok.injEq] at made
      subst made
      exact ⟨n, rfl, positive, Int.toNat_of_nonneg (Int.le_of_lt positive)⟩
    · simp [TabWidth.of, positive] at made
  case h_2 => cases made

namespace Draft

variable {d : Draft}

theorem tabWidth_eq_ok {asked : Option Int} (ample : 1 ≤ asked.getD d.config.tabWidth.columns) :
    ∃ width, d.tabWidth asked = .ok width ∧
      (width.columns : Int) = asked.getD d.config.tabWidth.columns := by
  cases asked with
  | none => exact ⟨d.config.tabWidth, rfl, rfl⟩
  | some w =>
    have positive : 0 < w := ample
    refine ⟨⟨w.toNat, by omega⟩, dif_pos positive, ?_⟩
    exact Int.toNat_of_nonneg (Int.le_of_lt positive)

theorem blankColumns_of_lt_one {width : Int} (small : width < 1) (s : Selection) :
    d.blankColumns s (some width) = .error (.tabWidth ⟨width⟩) := by
  have refused : TabWidth.of width = .error ⟨width⟩ := TabWidth.of_eq_error_iff.2 ⟨small, rfl⟩
  simp only [blankColumns, refused]
  rfl

theorem measured_by_tabWidth (s : Selection) {asked : Option Int}
    (ample : 1 ≤ asked.getD d.config.tabWidth.columns) :
    ∃ width : TabWidth, (width.columns : Int) = asked.getD d.config.tabWidth.columns ∧
      (∀ segments, blankColumnsAt segments (asked.getD d.config.tabWidth.columns) =
        .ok (Segment.blankColumns segments width : Int)) ∧
      d.blankColumns s asked = (d.valid? s).map fun found =>
        found.elim 0 fun r => Segment.blankColumns (d.segments r) width := by
  obtain ⟨width, chosen, columns⟩ := tabWidth_eq_ok ample
  refine ⟨width, columns, fun segments => ?_, ?_⟩
  · rw [← columns, blankColumnsAt_columns]
  · rw [blankColumns_of_tabWidth chosen]
    rcases d.valid? s with _ | _ | _ <;> rfl

theorem lineBreaks_eq_count (normal : d.IsNormal) {r : Range} (valid : d.HasRange r) :
    d.lineBreaks r = .ok ((d.rendered.slice (d.offset r.start).toNat
      (d.offset r.stop).toNat).count '\n') := by
  rw [lineBreaks, valid?_of_hasRange valid, slice_rendered normal valid]
  exact congrArg Except.ok (count_eq_countP (d.segments r) isLineBreak)

theorem blankColumns_eq_count (normal : d.IsNormal) {r : Range} (valid : d.HasRange r)
    {asked : Option Int} {width : TabWidth} (chosen : d.tabWidth asked = .ok width)
    {whole : Text} (expands : Expands width.columns [] (d.rendered.slice (d.offset r.start).toNat
      (d.offset r.stop).toNat) whole) :
    d.blankColumns r asked = .ok (whole.count ' ') := by
  have measured := expands.foldl_advance
  rw [slice_rendered normal valid] at measured
  simp only [blankColumns_of_tabWidth chosen, valid?_of_hasRange valid, Segment.blankColumns,
    fold_eq_foldl]
  exact congrArg (fun ruler => Except.ok (Ruler.blank ruler)) measured

theorem lineBreaks_eq_map (s : Selection) : d.lineBreaks s = (d.valid? s).map fun found =>
    found.elim 0 fun r => Segment.count (d.segments r) isLineBreak := by
  unfold lineBreaks
  rcases d.valid? s with _ | _ | _ <;> rfl

end Draft
end Spacing
