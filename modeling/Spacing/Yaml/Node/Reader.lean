import Spacing.Yaml.Node.Basic
import Spacing.Yaml.Token.Basic

namespace Spacing.Yaml

/-- What is left to read, the nodes so far, the numbers of those that have names, the latest first,
and what the handles of tags stand for. -/
structure Reading where
  tokens : List Token
  fault : Option Fault
  graph : Graph
  named : List (Text × Nat)
  handles : List (Text × Text)

namespace Reading

def nextIn (r : Reading) (stops : List Token) : Bool := r.tokens.head?.any fun t => t ∈ stops

def fail {α : Type} (r : Reading) : Except Fault α :=
  match r.tokens, r.fault with
  | [], some fault => throw fault
  | _, _ => throw .malformed

def atEnd (r : Reading) : Bool := r.tokens.isEmpty && r.fault.isNone

def skip (r : Reading) : Reading := { r with tokens := r.tokens.drop 1 }

def pass? (r : Reading) (t : Token) : Option Reading := if r.nextIn [t] then some r.skip else none

def pass (r : Reading) (t : Token) : Except Fault Reading :=
  if r.nextIn [t] then .ok r.skip else r.fail

structure Properties where
  name : Option Text
  tag : Option Tag

def properties (r : Reading) : Properties × Reading :=
  match r.tokens with
  | .anchor name :: .tag tag :: rest => (⟨some name, some tag⟩, { r with tokens := rest })
  | .tag tag :: .anchor name :: rest => (⟨some name, some tag⟩, { r with tokens := rest })
  | .anchor name :: rest => (⟨some name, none⟩, { r with tokens := rest })
  | .tag tag :: rest => (⟨none, some tag⟩, { r with tokens := rest })
  | _ => (⟨none, none⟩, r)

def fullName? (r : Reading) (tag : Tag) : Option Text :=
  match tag.handle with
  | none => some tag.name
  | some handle =>
    (r.handles.find? fun entry => entry.1 == handle).map fun entry => entry.2 ++ tag.name

/-- The kind that a node is marked with. The tag of one exclamation mark leaves the kind open, but
takes the quotes from a text. -/
inductive Marking
  | none
  | open
  | kind (k : Kind)
deriving DecidableEq

/-- Behind a name a tag with an unknown handle is a fault at once; else one more token is read. -/
def marking (r : Reading) (p : Properties) : Except Fault Marking :=
  match p.tag with
  | .none => return .none
  | some tag =>
    match r.fullName? tag with
    | some name => return if name == ['!'] then .open else .kind (Kind.ofName name)
    | .none => if p.name.isSome then throw .malformed else r.fail

def name (r : Reading) (name : Option Text) (node : Nat) : Reading :=
  match name with
  | some name => { r with named := (name, node) :: r.named }
  | none => r

def find? (r : Reading) (name : Text) : Option Nat :=
  (r.named.find? fun entry => entry.1 == name).map Prod.snd

def add (r : Reading) (node : Node) : Nat × Reading :=
  let (n, graph) := r.graph.add node
  (n, { r with graph })

def addScalar (r : Reading) (m : Marking) (quoted : Bool) (text : WideText) :
    Except Fault (Nat × Reading) := do
  let kind ←
    match m with
    | .kind k => pure k
    | .none => if quoted then pure .str else Kind.ofText r.graph.version text
    | .open => Kind.ofText r.graph.version text
  return r.add ⟨kind, .scalar text⟩

/-- Beyond the early version a colon may stand without a key. -/
def isKeyless (r : Reading) : Bool := r.nextIn [.value] && r.graph.version.isLate

/-- Where a node may be left out it is null, once the token behind it is told. -/
def addNull (r : Reading) : Except Fault (Nat × Reading) :=
  if r.tokens.isEmpty && !r.atEnd then r.fail else r.addScalar .none false []

/-- A collection of this kind, unless it is marked with another. It has its name before it is read,
so that it may be inside itself. -/
def begin (r : Reading) (p : Properties) (m : Marking) (kind : Kind) : Nat × Reading :=
  let content : Content := if kind = .map then .map [] [] else .list []
  let kind := match m with | .kind k => k | _ => kind
  let (n, r) := r.add ⟨kind, content⟩
  (n, r.name p.name n)

def fillList (n : Nat) (items : List Nat) (r : Reading) : Nat × Reading :=
  (n, { r with graph := r.graph.setContent n (.list items) })

def fillMap (n : Nat) (entries : List (Nat × Nat)) (r : Reading) : Nat × Reading :=
  (n, { r with graph := r.graph.setContent n (.map [] entries) })

mutual

/-- One node. Mappings and lists laid out in lines stand outside brackets alone; under a key a list
may begin without being indented. -/
def node : Nat → Bool → Bool → Reading → Except Fault (Nat × Reading)
  | 0, _, _, _ => throw .malformed
  | fuel + 1, block, underKey, r =>
    if let .alias name :: _ := r.tokens then return (← demand (r.find? name), r.skip)
    else do
      let (p, r) := r.properties
      let m ← r.marking p
      let scalar (quoted : Bool) (text : WideText) (rest : Reading) := do
        let (n, r) ← rest.addScalar m quoted text
        return (n, r.name p.name n)
      match r.tokens with
      | .plain text :: _ => scalar false text.wide r.skip
      | .quoted text :: _ => scalar true text r.skip
      | .openList :: _ =>
        let (n, r) := r.begin p m .list
        bracketItems fuel n [] r.skip
      | .openMap :: _ =>
        let (n, r) := r.begin p m .map
        bracketEntries fuel n [] r.skip
      | t :: _ =>
        if t = .item && underKey then
          let (n, r) := r.begin p m .list
          levelItems fuel n [] r
        else if t = .blockList && block then
          let (n, r) := r.begin p m .list
          blockItems fuel n [] r.skip
        else if t = .blockMap && block then
          let (n, r) := r.begin p m .map
          blockEntries fuel n [] r.skip
        else if p.name.isSome || p.tag.isSome then scalar false [] r
        else r.fail
      | [] => if r.atEnd && (p.name.isSome || p.tag.isSome) then scalar false [] r else r.fail

def optional : Nat → Bool → Bool → List Token → Reading → Except Fault (Nat × Reading)
  | 0, _, _, _, _ => throw .malformed
  | fuel + 1, block, underKey, stops, r =>
    if r.nextIn stops then r.addNull else node fuel block underKey r

def valued : Nat → Bool → List Token → Reading → Except Fault (Nat × Reading)
  | 0, _, _, _ => throw .malformed
  | fuel + 1, block, stops, r =>
    match r.pass? .value with
    | some r => optional fuel block block stops r
    | none => r.addNull

def blockItems : Nat → Nat → List Nat → Reading → Except Fault (Nat × Reading)
  | 0, _, _, _ => throw .malformed
  | fuel + 1, n, done, r =>
    match r.pass? .item with
    | some r => do
      let (item, r) ← optional fuel true false [.item, .blockEnd] r
      blockItems fuel n (done ++ [item]) r
    | none => return (← r.pass .blockEnd).fillList n done

/-- The items of a list as deep as the key it is under; it ends with the last of them. -/
def levelItems : Nat → Nat → List Nat → Reading → Except Fault (Nat × Reading)
  | 0, _, _, _ => throw .malformed
  | fuel + 1, n, done, r =>
    match r.pass? .item with
    | some r => do
      let (item, r) ← optional fuel true false [.item, .key, .value, .blockEnd] r
      levelItems fuel n (done ++ [item]) r
    | none => return r.fillList n done

def blockEntries : Nat → Nat → List (Nat × Nat) → Reading → Except Fault (Nat × Reading)
  | 0, _, _, _ => throw .malformed
  | fuel + 1, n, done, r => do
    if let some r := r.pass? .blockEnd then return r.fillMap n done
    let stops : List Token := [.key, .value, .blockEnd]
    let (key, r) ←
      match r.pass? .key with
      | some r => optional fuel true true stops r
      | none => if r.isKeyless then r.addNull else r.fail
    let (value, r) ← valued fuel true stops r
    blockEntries fuel n (done ++ [(key, value)]) r

/-- The items up to the closing bracket. A key with its value is a mapping of its own. -/
def bracketItems : Nat → Nat → List Nat → Reading → Except Fault (Nat × Reading)
  | 0, _, _, _ => throw .malformed
  | fuel + 1, n, done, r => do
    if let some r := r.pass? .closeList then return r.fillList n done
    let (item, r) ←
      match r.pass? .key with
      | some r => do
        let (map, r) := r.add ⟨.map, .map [] []⟩
        let (key, r) ← optional fuel false false [.value, .comma, .closeList] r
        let (value, r) ← valued fuel false [.comma, .closeList] r
        pure (r.fillMap map [(key, value)])
      | none => node fuel false false r
    match r.pass? .comma with
    | some r => bracketItems fuel n (done ++ [item]) r
    | none => return (← r.pass .closeList).fillList n (done ++ [item])

def bracketEntries : Nat → Nat → List (Nat × Nat) → Reading → Except Fault (Nat × Reading)
  | 0, _, _, _ => throw .malformed
  | fuel + 1, n, done, r => do
    if let some r := r.pass? .closeMap then return r.fillMap n done
    let (key, r) ←
      match r.pass? .key with
      | some r => optional fuel false false [.value, .comma, .closeMap] r
      | none =>
        if r.isKeyless then r.addNull
        else do
          let (key, r) ← node fuel false false r
          if r.nextIn [.value] then r.fail else pure (key, r)
    let (value, r) ← valued fuel false [.comma, .closeMap] r
    let done := done ++ [(key, value)]
    match r.pass? .comma with
    | some r => bracketEntries fuel n done r
    | none => return (← r.pass .closeMap).fillMap n done

end

def directives : Bool → Reading → List Token → Except Fault Reading
  | versioned, r, .directive d :: rest =>
    match d with
    | .version version =>
      if versioned || version.major != 1 then throw .malformed
      else directives true { r with graph := { r.graph with version } } rest
    | .handle name meaning =>
      if r.handles.any fun entry => entry.1 == name then throw .malformed
      else directives versioned { r with handles := (name, meaning) :: r.handles } rest
    | .other => directives versioned r rest
  | _, r, rest => return { r with tokens := rest }

def standardHandles : List (Text × Text) := [(['!'], ['!']), (['!', '!'], Kind.origin)]

def startsDocument : Token → Bool
  | .directive _ | .documentStart => true
  | _ => false

/-- Nothing may follow the only document but its end, which the early version lets stand several
times. What follows is read up to where it is seen to be another document. -/
def finish (r : Reading) : Except Fault Unit := do
  let early := r.graph.version.isEarly
  let ended := r.nextIn [.documentEnd]
  let rest := if early then r.tokens.dropWhile (· == .documentEnd)
    else if ended then r.tokens.drop 1 else r.tokens
  let r := { r with tokens := rest, handles := [] }
  if !r.atEnd then
    if ended && !early && !r.tokens.head?.any startsDocument then r.fail
    else (← directives false r r.tokens).fail

def document (source : Tokens) : Except Fault (Nat × Graph) := do
  let fuel := 4 * source.known.length + 8
  let r ← directives false ⟨source.known, source.fault, ⟨.standard, #[]⟩, [], []⟩ source.known
  let r := { r with handles := r.handles ++ standardHandles }
  let directed := r.tokens.length < source.known.length
  let (node, r) ←
    match r.pass? .documentStart with
    | some r =>
      if r.atEnd || r.nextIn [.documentEnd] || r.tokens.head?.any startsDocument then r.addNull
      else node fuel true false r
    | none =>
      if directed then r.fail
      else if r.atEnd then r.addNull
      else node fuel true false r
  r.finish
  return (node, r.graph)

end Reading
end Spacing.Yaml
