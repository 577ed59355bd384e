import Spacing.Value.Basic

/-! The order of a set of numbers. Each number has a mark, and takes the slot that its mark leaves
as a remainder, or else the next free one on its way. The set is in the order of its slots. Any
other set is in the order in which its keys were given. -/
namespace Spacing

namespace Scalar

/-- The modulus of marks. Two to the power of 61 leaves the remainder 1 by it. -/
def markModulus : Nat := 0x1FFFFFFFFFFFFFFF

def signedMark (negative : Bool) (magnitude : Nat) : Int :=
  let mark : Int := (magnitude % markModulus : Nat)
  if negative then if mark = 1 then -2 else -mark else mark

def mark? : Scalar → Option Int
  | float value _ =>
    let magnitude := value.toBits &&& 0x7FFFFFFFFFFFFFFF
    let negative := value.toBits != magnitude
    let span := RoundingSpan.ofBits magnitude
    if value.isNaN then none
    else if value.isInf then some (signedMark negative 314159)
    else
      let back := (61 - span.scale % 61) % 61
      some (signedMark negative ((span.value % markModulus) <<< back))
  | value => value.integer?.map fun n => signedMark (n < 0) n.natAbs

end Scalar

namespace Key

/-- Eight slots are enough for four keys; for more, there are more than twice as many as keys. -/
def slotCount (keys : Nat) : Nat :=
  if keys < 5 then 8 else Nat.shiftLeft 1 ((2 * keys).log2 + 1)

/-- The first free slot: the one given, then some of those behind it if they are all there, then the
same from another slot, in which more and more of the mark has a part. -/
def freeSlot? (slots : Array (Option Key)) : Nat → UInt64 → Nat → Option Nat
  | 0, _, _ => none
  | fuel + 1, spread, slot =>
    let behind := if slot + 9 < slots.size then 10 else 1
    match (List.range behind).find? fun step => (slots.getD (slot + step) none).isNone with
    | some step => some (slot + step)
    | none =>
      let spread := spread >>> 5
      freeSlot? slots fuel spread ((slot * 5 + 1 + spread.toNat) % slots.size)

/-- Every slot is tried once the mark is used up, which takes thirteen turns. -/
def place (slots : Array (Option Key)) (key : Key) (mark : Int) : Array (Option Key) :=
  let spread := (Int64.ofInt mark).toUInt64
  match freeSlot? slots (slots.size + 14) spread (spread.toNat % slots.size) with
  | some slot => slots.setIfInBounds slot (some key)
  | none => slots

def inSlots (keys : List Key) : List Key :=
  let marks := keys.mapM fun key : Key =>
    match key with
    | .scalar value => value.mark?
    | .tuple _ => none
  match marks with
  | some marks =>
    let free := Array.replicate (slotCount keys.length) none
    let slots := (keys.zip marks).foldl (fun slots entry => place slots entry.1 entry.2) free
    slots.toList.filterMap id
  | none => keys

end Key
end Spacing
