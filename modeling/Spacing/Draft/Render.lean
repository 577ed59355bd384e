import Spacing.Draft.Basic

namespace Spacing

structure Rendering where
  text : Text
  shrunk : Int
deriving DecidableEq

/-- The edit's base offsets are shifted by what the edits before it have taken away. -/
def Rendering.splice (done : Rendering) (e : Edit) : Rendering :=
  ⟨done.text.take (e.start - done.shrunk).toNat ++ e.text ++
      done.text.drop (e.stop - done.shrunk).toNat,
    done.shrunk + e.shrinkage⟩

def removedBy : List Edit → Nat
  | [] => 0
  | e :: rest => (e.stop - e.start) + removedBy rest

def addedBy : List Edit → Nat
  | [] => 0
  | e :: rest => e.text.length + addedBy rest

/-- Sizes and numbers of the pending edits. An edit is an insertion if it replaces nothing, else a
deletion if it writes nothing, else a replacement. -/
structure Summary where
  edits : Nat
  removed : Nat
  added : Nat
  netDelta : Int
  insertions : Nat
  deletions : Nat
  replacements : Nat
deriving DecidableEq

namespace Draft

def rendered (d : Draft) : Text := (d.pending.toList.foldl Rendering.splice ⟨d.base, 0⟩).text

def summary (d : Draft) : Summary :=
  let edits := d.pending.toList
  let removed := removedBy edits
  let added := addedBy edits
  { edits := d.pending.size
    removed, added
    netDelta := (removed : Int) - added
    insertions := edits.countP fun e => e.isInsertion
    deletions := edits.countP fun e => !e.isInsertion && e.text.isEmpty
    replacements := edits.countP fun e => !e.isInsertion && !e.text.isEmpty }

/-- A base text may hold any code points. -/
def describeOver (base : WideText) (pending : Patch) : WideText :=
  Text.wide "TextWithChanges(".toList ++ base.visibleQuoted ++ Text.wide ", changes=".toList ++
    Text.wide (Patch.describeEdits pending.toList) ++ [.char ')']

def describe (d : Draft) : WideText := describeOver d.base.wide d.pending

end Draft
end Spacing
