import Spacing.Text.Basic

namespace Spacing

structure TabWidth where
  columns : Nat
  positive : 0 < columns
deriving DecidableEq

namespace TabWidth

structure Fault where
  columns : Int
deriving DecidableEq

def Fault.message (fault : Fault) : Text :=
  Text.telling [fault.columns]
    ("tab_width must be positive, got ".toList ++ Text.ofInt fault.columns)

def of (columns : Int) : Except Fault TabWidth :=
  if positive : 0 < columns then .ok ⟨columns.toNat, by omega⟩ else .error ⟨columns⟩

def standard : TabWidth := ⟨4, by decide⟩

theorem of_eq_error_iff {columns : Int} {fault : Fault} :
    of columns = .error fault ↔ columns < 1 ∧ fault = ⟨columns⟩ := by
  unfold of
  split
  · simp; omega
  · simp only [Except.error.injEq]
    exact ⟨fun same => ⟨by omega, same.symm⟩, fun both => both.2.symm⟩

end TabWidth

structure Config where
  tabWidth : TabWidth
deriving DecidableEq

def Config.standard : Config := ⟨TabWidth.standard⟩

end Spacing
