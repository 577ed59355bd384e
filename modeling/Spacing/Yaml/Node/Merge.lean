import Spacing.Yaml.Node.Basic

/-! Mappings that draw in the entries of others. A key of the kind `merge` has such a mapping for
its value, or a list of them. It is taken out of its mapping before the others are looked at, so a
mapping may even draw itself in. -/
namespace Spacing.Yaml.Graph

def asTexts (g : Graph) (entries : List (Nat × Nat)) : Graph :=
  entries.foldl (fun g entry => if g.kind entry.1 == .default then g.setKind entry.1 .str else g) g

mutual

def merge : Nat → Nat → Graph → Except Fault Graph
  | 0, _, _ => .error .malformed
  | fuel + 1, n, g => do
    let (drawn, g) ← mergeFrom fuel n 0 [] g
    return if drawn.isEmpty then g else g.setContent n (.map drawn (drawn ++ g.entries n))

/-- What a mapping draws in: what has been `drawn` already, and what the entries from the one at
`index` on draw in. Only one entry may draw in anything. Of the mappings in a list the last is drawn
in first, so that what an earlier one says of a key holds. -/
def mergeFrom : Nat → Nat → Nat → List (Nat × Nat) → Graph →
    Except Fault (List (Nat × Nat) × Graph)
  | 0, _, _, _, _ => .error .malformed
  | fuel + 1, n, index, drawn, g => do
    let entries := g.entries n
    let plain := (entries.drop index).takeWhile fun entry => g.kind entry.1 != .merge
    let g := g.asTexts plain
    let index := index + plain.length
    match entries[index]? with
    | none => return (drawn, g)
    | some (_, source) =>
      require drawn.isEmpty
      let g := g.setContent n (.map (g.drawn n) (entries.eraseIdx index))
      let take (taken : List (Nat × Nat) × Graph) (m : Nat) :
          Except Fault (List (Nat × Nat) × Graph) := do
        require (taken.2.isMap m)
        let g ← merge fuel m taken.2
        return (g.entries m ++ taken.1, g)
      let (drawn, g) ←
        match g.content source with
        | .list items => items.foldlM take ([], g)
        | _ => take ([], g) source
      mergeFrom fuel n index drawn g

end

/-- Each merge is taken out once, which takes two turns at most. -/
def resolve (g : Graph) (n : Nat) : Except Fault Graph := merge (2 * g.entryCount + 4) n g

end Spacing.Yaml.Graph
