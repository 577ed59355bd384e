import Spacing.Draft.Basic
import Spacing.Draft.Event

/-! Submitting a change: replace a range of the edited text by a blank text. Every check comes
before the pending edits are touched. A submission in base text takes in at most one edit that lies
inside it and joins the edits that touch it, so pending edits keep apart. -/
namespace Spacing

structure Progress where
  pending : Patch
  journal : List Event

abbrev Submission := ExceptT Failure (StateM Progress)

namespace Submission

def note (event : Event) : Submission Unit :=
  modify fun progress => { progress with journal := progress.journal ++ [event] }

def reject {α : Type} (reason : Rejection) : Submission α := throw (.rejected reason)

def erase (e : Edit) : Submission Unit := do
  let pending ← ((← get).pending.erase e).mapError Failure.patch
  modify fun progress => { progress with pending }

def insert (e : Edit) : Submission Unit := do
  let pending ← ((← get).pending.insert e).mapError Failure.patch
  modify fun progress => { progress with pending }

end Submission

open Submission

/-- The edit to be stored, where the submitted text begins in it, and the edits it stands for. -/
structure Change where
  edit : Edit
  shift : Nat
  removed : List Edit
deriving DecidableEq

def Change.joinLeft (change : Change) : Option Edit → Submission Change
  | none => return change
  | some e => do
    note (.joinedLeft e)
    let edit ← (e.join change.edit).mapError Failure.edit
    return ⟨edit, e.text.length, change.removed ++ [e]⟩

def Change.joinRight (change : Change) : Option Edit → Submission Change
  | none => return change
  | some e => do
    note (.joinedRight e)
    let edit ← (change.edit.join e).mapError Failure.edit
    return ⟨edit, change.shift, change.removed ++ [e]⟩

/-- The new edit takes the place of the edits it stands for. The range returned is where the
submitted text now is: in the edit, unless the text ends with it or nothing is left. -/
def Change.store (change : Change) (length : Nat) : Submission Range := do
  change.removed.forM erase
  if change.edit.isVoid then
    note (.collapsed change.edit.start)
    return ⟨.base change.edit.stop, .base change.edit.stop⟩
  insert change.edit
  note (.stored change.edit)
  let stop ←
    if change.shift + length < change.edit.text.length then
      (Position.inEdit change.edit (change.shift + length : Nat)).mapError Failure.position
    else pure (.base change.edit.stop)
  let start ←
    if change.edit.text.isEmpty then pure stop
    else (Position.inEdit change.edit change.shift).mapError Failure.position
  return ⟨start, stop⟩

namespace Draft

/-- The edits that a new edit over `[lo, hi)` would swallow. An insertion at `lo` lies to the left
of a base position there and is no part of them. -/
def inside (d : Draft) (lo hi : Nat) (apart : Option Edit) : List Edit :=
  (d.pending.between lo hi).filter fun e =>
    some e != apart && !(e.isInsertion && e.start == lo)

def absorb (d : Draft) (lo hi : Nat) (apart : Option Edit) : Submission (List Edit) := do
  let swallowed := d.inside lo hi apart
  if 1 < swallowed.length then reject (.severalInside lo hi swallowed.length)
  swallowed.forM fun e => note (.absorbed e)
  return swallowed

def changeInBase (d : Draft) (start stop : Nat) (right : Option Edit) (text : Text) :
    Submission Change := do
  let swallowed ← d.absorb start stop right
  let edit ← (Edit.of start stop text).mapError Failure.edit
  let change ← Change.joinLeft ⟨edit, 0, swallowed⟩ (d.pending.stoppingAt? start)
  change.joinRight right

def changeFromEdit (d : Draft) (e : Edit) (stop : Nat) (text : Text) : Submission Change := do
  let swallowed ← d.absorb e.stop stop (some e)
  let edit ← (Edit.of e.start stop text).mapError Failure.edit
  return ⟨edit, 0, e :: swallowed⟩

def changeInEdit (e : Edit) (lo hi : Nat) (text : Text) : Submission Change := do
  let edit ← (Edit.of e.start e.stop (e.text.take lo ++ text ++ e.text.drop hi)).mapError
    Failure.edit
  return ⟨edit, lo, [e]⟩

/-- A range may join base text and edits in three ways: over base text up to the start of an edit,
from the start of an edit into base text, or inside one edit. -/
def change (d : Draft) (r : Range) (text : Text) : Submission Change :=
  match r.start, r.stop with
  | .base start, .base stop => d.changeInBase start stop none text
  | .base start, .within right offset =>
    if offset = 0 then d.changeInBase start right.start (some right) text
    else reject (.stopsInsideEdit right offset)
  | .within e offset, .base stop =>
    if offset = 0 then d.changeFromEdit e stop text else reject (.startsInsideEdit e offset)
  | .within e lo, .within f hi =>
    if e = f then changeInEdit e lo hi text else reject (.spansEdits r)

/-- To replace nothing by nothing is taken without further ado. -/
def attempt (d : Draft) (s : Selection) (text : Text) : Submission Range := do
  let r ← d.resolve s
  if ¬ text.IsBlank then reject (.notBlank text)
  else if r.isEmpty && text.isEmpty then return r
  else if 0 < Segment.count (d.segments r) (fun c => !isBlank c) then reject (.coversNonBlank r)
  else
    let change ← d.change r text
    change.store text.length

structure Outcome where
  result : Except Failure Range
  draft : Draft
  journal : List Event

/-- The lines that the entries leave. An entry that cannot be written leaves none, and this is no
failure of the submission. -/
def Outcome.lines (o : Outcome) : List Text := (o.journal.filter Event.isWritable).map Event.message

/-- The last entry for a failed submission: a rejection is noted, any other failure is not. -/
def closingEvents : Except Failure Range → List Event
  | .error (.rejected reason) => [.refused reason]
  | _ => []

def submit (d : Draft) (s : Selection) (text : Text) : Outcome :=
  let (result, progress) := (d.attempt s text).run ⟨d.pending, [.submitted s text]⟩
  ⟨result, { d with pending := progress.pending }, progress.journal ++ closingEvents result⟩

end Draft
end Spacing
