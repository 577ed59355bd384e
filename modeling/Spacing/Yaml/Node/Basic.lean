import Spacing.Yaml.Kind

namespace Spacing.Yaml

/-- `drawn` are the entries that a mapping has drawn in from others. They come first among its
entries, too. -/
inductive Content
  | scalar (text : WideText)
  | list (items : List Nat)
  | map (drawn entries : List (Nat × Nat))

structure Node where
  kind : Kind
  content : Content

structure Graph where
  version : Version
  nodes : Array Node

namespace Graph

def size (g : Graph) : Nat := g.nodes.size

def add (g : Graph) (node : Node) : Nat × Graph :=
  (g.size, { g with nodes := g.nodes.push node })

def kind (g : Graph) (n : Nat) : Kind := (g.nodes[n]?).elim .unknown Node.kind

def content (g : Graph) (n : Nat) : Content := (g.nodes[n]?).elim (.scalar []) Node.content

def setKind (g : Graph) (n : Nat) (kind : Kind) : Graph :=
  { g with nodes := g.nodes.setIfInBounds n ⟨kind, g.content n⟩ }

def setContent (g : Graph) (n : Nat) (content : Content) : Graph :=
  { g with nodes := g.nodes.setIfInBounds n ⟨g.kind n, content⟩ }

def isMap (g : Graph) (n : Nat) : Bool := match g.content n with | .map _ _ => true | _ => false

def drawn (g : Graph) (n : Nat) : List (Nat × Nat) :=
  match g.content n with | .map drawn _ => drawn | _ => []

def entries (g : Graph) (n : Nat) : List (Nat × Nat) :=
  match g.content n with | .map _ entries => entries | _ => []

def entryCount (g : Graph) : Nat :=
  g.nodes.foldl
    (fun count node =>
      match node.content with | .map _ entries => count + entries.length | _ => count)
    0

/-- The text of a scalar. A mapping with a key of the kind `default` stands for the text under it. A
mapping that is not inside itself is no deeper than there are nodes. -/
def textIn (g : Graph) : Nat → Nat → Except Fault WideText
  | 0, _ => .error .malformed
  | fuel + 1, n =>
    match g.content n with
    | .scalar text => .ok text
    | .map _ entries =>
      match entries.find? fun entry => g.kind entry.1 == .default with
      | some entry => g.textIn fuel entry.2
      | none => .error .malformed
    | .list _ => .error .malformed

def text (g : Graph) (n : Nat) : Except Fault WideText := g.textIn (g.size + 1) n

end Graph
end Spacing.Yaml
