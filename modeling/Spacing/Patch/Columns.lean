import Spacing.Patch.Basic

/-! The layout of a patch in two columns, its edits and beside them their starts. A place is searched
in the column of starts and read in the column of edits, and an update changes one column after the
other, each at a place of its own. Nothing but the updates keeps the columns level. -/
namespace Spacing

inductive Update
  | insert (edit : Edit)
  | erase (edit : Edit)
deriving DecidableEq

def Patch.update (p : Patch) : Update → Except Patch.Fault Patch
  | .insert e => p.insert e
  | .erase e => p.erase e

structure Columns where
  starts : Array Nat
  edits : Array Edit
deriving DecidableEq

namespace Columns

inductive Fault
  | refused (fault : Patch.Fault)
  | outside (place : Nat)
deriving DecidableEq

def empty : Columns := ⟨#[], #[]⟩

def lowerBound (c : Columns) (start : Nat) : Nat := partitionPoint c.starts fun s => s < start

def upperBound (c : Columns) (start : Nat) : Nat := partitionPoint c.starts fun s => s ≤ start

def put {α : Type} (column : Array α) (place : Nat) (item : α) : Array α :=
  (column.toList.take place ++ item :: column.toList.drop place).toArray

def drop {α : Type} (column : Array α) (place : Nat) : Array α :=
  (column.toList.eraseIdx place).toArray

/-- The place of the edit is the first that holds no smaller start; its start is put behind all that
are not greater. -/
def insert (c : Columns) (e : Edit) : Except Fault Unit × Columns :=
  let place := c.lowerBound e.start
  if c.starts[place]? = some e.start then
    match c.edits[place]? with
    | some existing => (.error (.refused (.occupied existing)), c)
    | none => (.error (.outside place), c)
  else (.ok (), ⟨put c.starts (c.upperBound e.start) e.start, put c.edits place e⟩)

def erase (c : Columns) (e : Edit) : Except Fault Unit × Columns :=
  let place := c.lowerBound e.start
  if place = c.starts.size then (.error (.refused (.absent e)), c)
  else
    match c.edits[place]? with
    | some found =>
      if found = e then (.ok (), ⟨drop c.starts place, drop c.edits place⟩)
      else (.error (.refused (.absent e)), c)
    | none => (.error (.outside place), c)

def update (c : Columns) : Update → Except Fault Unit × Columns
  | .insert e => c.insert e
  | .erase e => c.erase e

def after (c : Columns) (updates : List Update) : Columns :=
  updates.foldl (fun c u => (c.update u).2) c

end Columns

def Patch.columns (p : Patch) : Columns := ⟨p.edits.map Edit.start, p.edits⟩

end Spacing
