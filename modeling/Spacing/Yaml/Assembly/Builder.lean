import Spacing.Value.Slots
import Spacing.Yaml.Assembly.Unfolding
import Spacing.Yaml.Node.Merge

/-! The value of a document, built from its nodes. Collections wait until those met before them are
filled, so of two faults the one in the collection nearer to the root comes up first; a key is
completed at once. -/
namespace Spacing.Yaml

abbrev Assembling := StateT Assembly (Except Fault)

namespace Assembling

/-- Makes the item of a node; the truth value says whether it is completed at once. -/
abbrev Make := Bool → Nat → Assembling Item

def twice (a : Assembly) (key : Key) (old new : Item) : Fault :=
  if key.isWritable && (a.value old).isWritable && (a.value new).isWritable then .malformed
  else .unwritable

/-- One entry more. A list is the key that its items make up before the value of the entry is
made. -/
def addEntry (make : Make) (atOnce distinct : Bool) (done : List (Key × Item)) (entry : Nat × Nat) :
    Assembling (List (Key × Item)) := do
  let key ← make true entry.1
  let before ← get
  require (!before.isKeyless key)
  let value ← make atOnce entry.2
  let key ← before.key key
  if distinct then
    if let some old := done.find? fun entry => entry.1.same key then
      throw (twice (← get) key old.2 value)
  return Key.put done key value

def entries (make : Make) (atOnce : Bool) (n : Nat) : Assembling (List (Key × Item)) := do
  let a ← get
  require (a.graph.isMap n)
  let graph ← a.graph.resolve n
  set { a with graph }
  let drawn := graph.drawn n
  if drawn.isEmpty then (graph.entries n).foldlM (addEntry make atOnce true) []
  else
    let first ← drawn.foldlM (addEntry make atOnce false) []
    let all ← (graph.entries n).foldlM (addEntry make atOnce false) []
    return Key.putAll first all

def single (m : Nat) : Assembling (Nat × Nat) := do
  match (← get).graph.content m with
  | .map _ [entry] => return entry
  | _ => throw .malformed

/-- One entry more of an ordered mapping, which has it as soon as its value is made. No key may be
there twice, and no list is a key. -/
def addOrdered (make : Make) (atOnce : Bool) (n : Nat) (done : List (Key × Item)) (m : Nat) :
    Assembling (List (Key × Item)) := do
  let (key, value) ← single m
  let key ← make atOnce key
  let key ← (← get).part key
  if done.any fun entry => entry.1.same key then throw .keyTwice
  let done := done ++ [(key, ← make atOnce value)]
  modify fun a => a.hold n (.ordered done)
  return done

def addPair (make : Make) (atOnce : Bool) (n : Nat) (done : List Item) (m : Nat) :
    Assembling (List Item) := do
  let (first, second) ← single m
  let done := done ++ [.pair (← make atOnce first) (← make atOnce second)]
  modify fun a => a.hold n (.list done)
  return done

def fill (make : Make) (atOnce : Bool) (n : Nat) : Assembling Unit := do
  let graph := (← get).graph
  match graph.kind n, graph.content n with
  | .list, .list items => do
    let items ← items.mapM (make atOnce)
    modify fun a => a.hold n (.list items)
  | .ordered, .list items => discard (items.foldlM (addOrdered make atOnce n) [])
  | .pairs, .list items => discard (items.foldlM (addPair make atOnce n) [])
  | .map, _ => do
    let entries ← entries make atOnce n
    modify fun a => a.hold n (.map entries)
  | .set, _ => do
    let entries ← entries make atOnce n
    modify fun a => a.hold n (.set (Key.inSlots (entries.map Prod.fst)))
  | _, _ => throw .malformed

def scalar (g : Graph) (n : Nat) : Except Fault Scalar := do
  let kind := g.kind n
  require (kind != .timestamp || !g.isMap n)
  kind.scalar g.version (n + 1) (← g.text n)

/-- The item of a node. A collection that is inside itself is not filled again, so the number of
nodes is fuel enough. -/
def make : Nat → Make
  | 0, _, _ => throw .malformed
  | fuel + 1, atOnce, n => do
    let a ← get
    if let some item := a.item? n then return item
    match Holding.empty? (a.graph.kind n) with
    | some holding =>
      let a := a.begin n holding
      if atOnce then
        set a
        fill (make fuel) true n
      else set { a with waiting := n :: a.waiting }
      return .collection n
    | none =>
      let item := Item.scalar (← scalar a.graph n)
      set (a.settle n item)
      return item

/-- Those that wait are filled, the first of them first, and then those that they made wait. Each
waits once, so the number of nodes is fuel enough. -/
def complete (make : Make) : Nat → Assembling Unit
  | 0 => return
  | fuel + 1 => do
    let a ← get
    unless a.waiting.isEmpty do
      set { a with waiting := [] }
      a.waiting.reverse.forM (fill make false)
      complete make fuel

end Assembling

def Graph.value (g : Graph) (root : Nat) : Except Fault Value := do
  let make := Assembling.make (g.size + 1)
  let build : Assembling Item := do
    let item ← make false root
    Assembling.complete make (g.size + 1)
    return item
  let (item, a) ← build.run (Assembly.ofGraph g)
  return a.document item

end Spacing.Yaml
