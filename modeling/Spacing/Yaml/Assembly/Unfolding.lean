import Spacing.Yaml.Assembly.Basic

namespace Spacing.Yaml

abbrev Unfolding := StateM (Array (Option Value))

namespace Assembly

/-- The value of an item that is inside of the collections on `path`, and whether it would be the
same elsewhere. A pair stands between two collections at most, so twice the number of collections is
fuel enough. -/
def unfold (a : Assembly) : Nat → List Nat → Item → Unfolding (Value × Bool)
  | 0, _, _ => return (.null, false)
  | _ + 1, _, .scalar value => return (.scalar value, true)
  | fuel + 1, path, .pair first second => do
    let (first, same) ← a.unfold fuel path first
    let (second, same') ← a.unfold fuel path second
    return (.tuple [first, second], same && same')
  | fuel + 1, path, .collection n => do
    if let some value := ((← get)[n]?).join then return (value, true)
    if path.contains n then return (.again (a.holding n).collection, false)
    let inside (entry : Key × Item) : Unfolding ((Key × Value) × Bool) := do
      let (value, same) ← a.unfold fuel (n :: path) entry.2
      return ((entry.1, value), same)
    let (value, same) ←
      match a.holding n with
      | .list items => do
        let values ← items.mapM (a.unfold fuel (n :: path))
        pure (Value.list (values.map Prod.fst), values.all Prod.snd)
      | .map entries => do
        let entries ← entries.mapM inside
        pure (Value.map (entries.map Prod.fst), entries.all Prod.snd)
      | .ordered entries => do
        let entries ← entries.mapM inside
        pure (Value.ordered (entries.map Prod.fst), entries.all Prod.snd)
      | .set keys => pure (Value.set keys, true)
    if same then modify fun done => done.setIfInBounds n (some value)
    return (value, same)

def unfoldEach (a : Assembly) (entries : List (Key × Item)) : List (Key × Value) :=
  let each (entry : Key × Item) : Unfolding (Key × Value) := do
    return (entry.1, (← a.unfold (2 * a.items.size + 3) [] entry.2).1)
  ((entries.mapM each).run (Array.replicate a.items.size none)).1

def value (a : Assembly) (item : Item) : Value :=
  ((a.unfold (2 * a.items.size + 3) [] item).run (Array.replicate a.items.size none)).1.1

def document (a : Assembly) (item : Item) : Value :=
  match item with
  | .collection n =>
    match a.holding n with
    | .map entries => .map (a.unfoldEach entries)
    | .ordered entries => .ordered (a.unfoldEach entries)
    | _ => a.value item
  | _ => a.value item

end Assembly
end Spacing.Yaml
