import Spacing.Yaml.Node.Basic

/-! Collections while they are filled from their nodes. A collection is there as soon as its node
has been met, and is filled later, so that others may hold it already. -/
namespace Spacing.Yaml

/-- What a node stands for: a scalar, or a collection, which goes by the number of the node. A pair
is no collection and has no node of its own. -/
inductive Item
  | scalar (value : Scalar)
  | pair (first second : Item)
  | collection (n : Nat)

inductive Holding
  | list (items : List Item)
  | map (entries : List (Key × Item))
  | ordered (entries : List (Key × Item))
  | set (keys : List Key)

namespace Holding

def collection : Holding → Collection
  | list _ => .list
  | map _ => .map
  | ordered _ => .ordered
  | set _ => .set

def empty? : Kind → Option Holding
  | .list | .pairs => some (list [])
  | .map => some (map [])
  | .ordered => some (ordered [])
  | .set => some (set [])
  | _ => none

end Holding

/-- By the numbers of nodes: the items that have been met, and what the collections among them hold.
Those that are `waiting` are not filled yet, the latest first. -/
structure Assembly where
  graph : Graph
  items : Array (Option Item)
  holdings : Array Holding
  waiting : List Nat

namespace Assembly

def ofGraph (g : Graph) : Assembly :=
  ⟨g, Array.replicate g.size none, Array.replicate g.size (.list []), []⟩

def item? (a : Assembly) (n : Nat) : Option Item := (a.items[n]?).join

def settle (a : Assembly) (n : Nat) (item : Item) : Assembly :=
  { a with items := a.items.setIfInBounds n (some item) }

def holding (a : Assembly) (n : Nat) : Holding := a.holdings.getD n (.list [])

def hold (a : Assembly) (n : Nat) (holding : Holding) : Assembly :=
  { a with holdings := a.holdings.setIfInBounds n holding }

def begin (a : Assembly) (n : Nat) (holding : Holding) : Assembly :=
  (a.settle n (.collection n)).hold n holding

def part (a : Assembly) : Item → Except Fault Key
  | .scalar value => .ok (.scalar value)
  | .pair first second => do return .tuple [← a.part first, ← a.part second]
  | .collection n => .error (.inKey (a.holding n).collection)

def key (a : Assembly) (item : Item) : Except Fault Key :=
  match item with
  | .collection n =>
    match a.holding n with
    | .list items => Key.tuple <$> items.mapM a.part
    | _ => a.part item
  | _ => a.part item

def isKeyless (a : Assembly) : Item → Bool
  | .collection n => (a.holding n).collection != .list
  | _ => false

end Assembly
end Spacing.Yaml
