import Spacing.Calendar
import Spacing.Decimal.Shortest
import Spacing.Text.CodePoint

namespace Spacing

/-- A float that is no number is the same as another only if both have one origin; for all other
floats the origin is 0. -/
inductive Scalar
  | null
  | bool (value : Bool)
  | int (value : Int)
  | float (value : Float) (origin : Nat)
  | date (value : Date)
  | moment (value : Moment)
  | str (value : WideText)
  | bytes (value : List UInt8)

inductive Key
  | scalar (value : Scalar)
  | tuple (items : List Key)

/-- An ordered mapping is a mapping, and no other collection is one. -/
inductive Collection
  | list
  | map
  | ordered
  | set
deriving DecidableEq

/-- A tuple has a fixed number of items and is always complete. Where a collection holds itself, the
inner one stands as `again`. -/
inductive Value
  | scalar (value : Scalar)
  | tuple (items : List Value)
  | list (items : List Value)
  | map (entries : List (Key × Value))
  | ordered (entries : List (Key × Value))
  | set (keys : List Key)
  | again (collection : Collection)

def wholeNumber? (x : Float) : Option Int :=
  let magnitude := x.toBits &&& 0x7FFFFFFFFFFFFFFF
  let span := RoundingSpan.ofBits magnitude
  if 0x7FF0000000000000 ≤ magnitude then none
  else if (span.value >>> span.scale) <<< span.scale = span.value then
    let whole : Int := (span.value >>> span.scale : Nat)
    some (if x.toBits = magnitude then whole else -whole)
  else none

namespace Scalar

/-- Truth values count as 0 and 1 and compare with numbers. -/
def integer? : Scalar → Option Int
  | bool value => some (if value then 1 else 0)
  | int value => some value
  | float value _ => wholeNumber? value
  | null | date _ | moment _ | str _ | bytes _ => none

def same : Scalar → Scalar → Bool
  | null, null => true
  | str a, str b => a == b
  | bytes a, bytes b => a == b
  | date a, date b => a == b
  | moment a, moment b => a.same b
  | float a here, float b there => a == b || a.isNaN && b.isNaN && here == there
  | a, b =>
    match a.integer?, b.integer? with
    | some m, some n => m == n
    | _, _ => false

def isFalsy : Scalar → Bool
  | null => true
  | str text => text.isEmpty
  | bytes value => value.isEmpty
  | number => number.integer? == some 0

def isWritable : Scalar → Bool
  | int value => Text.isWritable value
  | _ => true

end Scalar

namespace Key

mutual

def same : Key → Key → Bool
  | scalar a, scalar b => a.same b
  | tuple as, tuple bs => sameItems as bs
  | _, _ => false

def sameItems : List Key → List Key → Bool
  | [], [] => true
  | a :: as, b :: bs => a.same b && sameItems as bs
  | _, _ => false

end

mutual

def isWritable : Key → Bool
  | scalar value => value.isWritable
  | tuple items => areWritable items

def areWritable : List Key → Bool
  | [] => true
  | key :: rest => key.isWritable && areWritable rest

end

def isText (key : Key) (name : Text) : Bool :=
  match key with
  | scalar (.str text) => text == name.wide
  | _ => false

def put {α : Type} (entries : List (Key × α)) (key : Key) (value : α) : List (Key × α) :=
  if entries.any fun entry => entry.1.same key then
    entries.map fun entry => if entry.1.same key then (entry.1, value) else entry
  else entries ++ [(key, value)]

def putAll {α : Type} (entries more : List (Key × α)) : List (Key × α) :=
  more.foldl (fun entries entry => put entries entry.1 entry.2) entries

end Key

namespace Value

abbrev null : Value := .scalar .null

def isFalsy : Value → Bool
  | scalar value => value.isFalsy
  | tuple items | list items => items.isEmpty
  | map entries | ordered entries => entries.isEmpty
  | set keys => keys.isEmpty
  | again _ => false

def equalsOne : Value → Bool
  | scalar value => value.integer? == some 1
  | _ => false

mutual

def isWritable : Value → Bool
  | scalar value => value.isWritable
  | tuple items | list items => areWritable items
  | map entries | ordered entries => entriesAreWritable entries
  | set keys => Key.areWritable keys
  | again _ => true

def areWritable : List Value → Bool
  | [] => true
  | value :: rest => value.isWritable && areWritable rest

def entriesAreWritable : List (Key × Value) → Bool
  | [] => true
  | (key, value) :: rest => key.isWritable && value.isWritable && entriesAreWritable rest

end

def ofFields (fields : List (Text × Value)) : Value :=
  map (fields.foldl
    (fun entries field => Key.put entries (.scalar (.str field.1.wide)) field.2) [])

def field? (entries : List (Key × Value)) (name : Text) : Option Value :=
  (entries.find? fun entry => entry.1.isText name).map Prod.snd

end Value
end Spacing
