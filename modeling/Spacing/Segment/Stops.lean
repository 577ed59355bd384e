import Spacing.Segment.Walk

/-! Columns with tab stops at any distance. If it is negative the stops lie backward and a tab takes
columns away; at a positive distance the columns are those of a tab width. -/
namespace Spacing

structure Gauge where
  blank : Int
  column : Int
deriving DecidableEq

namespace Gauge

/-- Stops 0 columns apart give a tab no width. -/
inductive Fault
  | noStops
deriving DecidableEq

def Fault.message : Fault → Text
  | noStops => "integer modulo by zero".toList

def advance (distance : Int) (g : Gauge) (c : Char) : Except Fault Gauge :=
  if c = ' ' then .ok ⟨g.blank + 1, g.column + 1⟩
  else if c = '\t' then
    if distance = 0 then .error .noStops
    else
      let width := distance - g.column.fmod distance
      .ok ⟨g.blank + width, g.column + width⟩
  else .ok ⟨g.blank, g.column + 1⟩

def ofRuler (r : Ruler) : Gauge := ⟨r.blank, r.column⟩

theorem advance_ofRuler (tabWidth : TabWidth) (r : Ruler) (c : Char) :
    advance tabWidth.columns (ofRuler r) c = .ok (ofRuler (r.advance tabWidth c)) := by
  have positive := tabWidth.positive
  have bound := Nat.mod_lt r.column positive
  have remainder :
      (r.column : Int).fmod tabWidth.columns = (r.column % tabWidth.columns : Nat) := by
    rw [Int.fmod_eq_emod_of_nonneg _ (by omega), Int.natCast_emod]
  simp only [advance, Ruler.advance, ofRuler]
  split
  · simp
  · split
    · rw [if_neg (by omega), remainder]
      simp only [Except.ok.injEq, Gauge.mk.injEq]
      omega
    · simp

end Gauge

namespace Segment

def blankColumnsAt (segments : List Segment) (distance : Int) : Except Gauge.Fault Int :=
  let measured : Except Gauge.Fault Gauge :=
    fold segments (fun state c => state.bind fun g => g.advance distance c) (.ok ⟨0, 0⟩)
  measured.map Gauge.blank

theorem blankColumnsAt_columns (segments : List Segment) (tabWidth : TabWidth) :
    blankColumnsAt segments tabWidth.columns = .ok (blankColumns segments tabWidth : Int) := by
  have folded : ∀ (text : Text) (r : Ruler),
      text.foldl (fun state c => state.bind fun g => g.advance tabWidth.columns c)
          (Except.ok (Gauge.ofRuler r)) =
        .ok (Gauge.ofRuler (text.foldl (Ruler.advance tabWidth) r)) := by
    intro text
    induction text with
    | nil => intro r; rfl
    | cons c rest ih =>
      intro r
      rw [List.foldl_cons, List.foldl_cons, Except.bind, Gauge.advance_ofRuler, ih]
  have start := folded (textOf segments) ⟨0, 0⟩
  simp only [blankColumnsAt, blankColumns, fold_eq_foldl]
  exact congrArg (Except.map Gauge.blank) start

end Segment
end Spacing
