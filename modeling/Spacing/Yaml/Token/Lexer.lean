import Spacing.Yaml.Block
import Spacing.Yaml.Scalar
import Spacing.Yaml.Token.Label

/-! From text to tokens. That a token begins a key is known only at the colon behind it, so places
where a key may have begun are kept until then, and the tokens from the first such place on are not
known yet. Such a key stands on one line and takes at most 1024 characters. -/
namespace Spacing.Yaml

/-- A place where a key may have begun, with the number of tokens before it. A key is required where
a token stands in the column of the mapping around it. -/
structure Candidate where
  depth : Nat
  position : Nat
  required : Bool
  index : Nat
  line : Nat
  column : Nat

inductive Bracket
  | list
  | map
deriving DecidableEq

structure Lexer where
  version : Version
  cursor : Cursor
  tokens : Array Token
  indent : Int
  outer : List Int
  brackets : List Bracket
  keyAllowed : Bool
  candidates : List Candidate

namespace Lexer

def ofText (text : Text) : Lexer :=
  let start : Cursor := ⟨text, 0, 0, 0⟩
  let start := if start.starts (· == '\ufeff') then start.skip 1 else start
  ⟨.standard, start, #[], -1, [], [], true, []⟩

def bracketed (l : Lexer) : Bool := !l.brackets.isEmpty

def depth (l : Lexer) : Nat := l.brackets.length

def emit (l : Lexer) (t : Token) : Lexer := { l with tokens := l.tokens.push t }

def emitAt (l : Lexer) (position : Nat) (t : Token) : Lexer :=
  { l with tokens := l.tokens.insertIdxIfInBounds position t }

def take (l : Lexer) (count : Nat) (t : Token) : Lexer :=
  { l.emit t with cursor := l.cursor.skip count }

/-! ## Candidates -/

def keep (l : Lexer) (p : Candidate → Bool) : Except Fault Lexer := do
  require (l.candidates.all fun k => p k || !k.required)
  return { l with candidates := l.candidates.filter p }

def settle (l : Lexer) : Except Fault Lexer :=
  l.keep fun k => k.line == l.cursor.line && l.cursor.index - k.index ≤ 1024

def release (l : Lexer) : Except Fault Lexer :=
  let depth := l.depth
  l.keep fun k => k.depth != depth

def propose (l : Lexer) : Except Fault Lexer :=
  if l.keyAllowed then do
    let required := !l.bracketed && l.indent == l.cursor.column
    let l ← l.release
    let candidate : Candidate :=
      ⟨l.depth, l.tokens.size, required, l.cursor.index, l.cursor.line, l.cursor.column⟩
    return { l with candidates := candidate :: l.candidates }
  else return l

/-! ## Indentation -/

def shallower (column : Int) (indent : Int) : List Int → Nat × Int × List Int
  | [] => (0, indent, [])
  | next :: outer =>
    if column < indent then
      let (count, rest) := shallower column next outer
      (count + 1, rest)
    else (0, indent, next :: outer)

def unwind (l : Lexer) (column : Int) : Lexer :=
  if l.bracketed then l
  else
    let (count, indent, outer) := shallower column l.indent l.outer
    { l with indent, outer, tokens := l.tokens ++ List.replicate count Token.blockEnd }

/-- A deeper column opens a mapping or list, whose token goes where it begins. -/
def deepen (l : Lexer) (column position : Nat) (t : Token) : Lexer :=
  if l.indent < column then
    { l.emitAt position t with indent := column, outer := l.indent :: l.outer }
  else l

/-! ## Tokens -/

def mark (l : Lexer) (t : Token) : Except Fault Lexer := do
  let l ← (l.unwind (-1)).release
  return { l.take 3 t with keyAllowed := false }

def directive (l : Lexer) : Except Fault Lexer := do
  let l ← (l.unwind (-1)).release
  let (d, cursor) ← readDirective l.version l.cursor
  let version := match d with | .version v => v | _ => l.version
  return { l.emit (.directive d) with version, cursor, keyAllowed := false }

def opening (l : Lexer) (b : Bracket) (t : Token) : Except Fault Lexer := do
  let l ← l.propose
  return { l.take 1 t with brackets := b :: l.brackets, keyAllowed := true }

def closing (l : Lexer) (t : Token) : Except Fault Lexer := do
  let l ← l.release
  return { l.take 1 t with brackets := l.brackets.tail, keyAllowed := false }

def comma (l : Lexer) : Except Fault Lexer := do
  let l ← l.release
  return { l.take 1 .comma with keyAllowed := true }

def indicator (l : Lexer) (opening t : Token) (keyAllowed : Bool) : Except Fault Lexer := do
  require (l.bracketed || l.keyAllowed)
  let l := if l.bracketed then l else l.deepen l.cursor.column l.tokens.size opening
  let l ← l.release
  return { l.take 1 t with keyAllowed }

/-- A colon makes the candidate between the current brackets a key; without one the key is empty or
was marked as such. -/
def value (l : Lexer) : Except Fault Lexer :=
  let depth := l.depth
  match l.candidates.find? fun k => k.depth == depth with
  | some k =>
    let l := { l with candidates := l.candidates.filter fun k => k.depth != depth }
    let l := l.emitAt k.position .key
    let l := if l.bracketed then l else l.deepen k.column k.position .blockMap
    return { l.take 1 .value with keyAllowed := false }
  | none => l.indicator .blockMap .value (!l.bracketed)

def content {α : Type} (l : Lexer) (read : Cursor → Except Fault (α × Cursor)) (t : α → Token) :
    Except Fault Lexer := do
  let l ← l.propose
  let (a, cursor) ← read l.cursor
  return { l.emit (t a) with cursor, keyAllowed := false }

def plain (l : Lexer) : Except Fault Lexer := do
  let l ← l.propose
  let setting : PlainSetting := ⟨l.bracketed, l.version.isEarly, l.indent + 1⟩
  let read := readPlain setting l.cursor
  return { l.emit (.plain read.text) with cursor := read.next, keyAllowed := read.broken }

def block (l : Lexer) (fold : Bool) : Except Fault Lexer := do
  let l ← l.release
  let (text, cursor) ← readBlock fold (l.indent + 1).toNat l.cursor
  return { l.emit (.quoted text.wide) with cursor, keyAllowed := true }

/-- Whether a colon stands for itself and is no part of a scalar. Between braces it always does, but
directly after another colon that is still `held` back for a candidate. In the early version it does
between brackets of either kind. -/
def atValue (l : Lexer) (held : Bool) (next : Option Char) : Bool :=
  match l.brackets with
  | [] => endsWord next
  | .list :: _ => l.version.isEarly || endsWord next
  | .map :: _ => l.version.isEarly || endsWord next || !(held && l.tokens.back? == some .value)

def token (l : Lexer) (held : Bool) (c : Char) (next : Option Char) : Except Fault Lexer :=
  if l.cursor.column == 0 && c = '%' then l.directive
  else if l.cursor.column == 0 && l.cursor.atMark then
    l.mark (if c = '-' then .documentStart else .documentEnd)
  else if c = '[' then l.opening .list .openList
  else if c = '\x7b' then l.opening .map .openMap
  else if c = ']' then l.closing .closeList
  else if c = '\x7d' then l.closing .closeMap
  else if c = ',' then l.comma
  else if c = '-' && endsWord next then l.indicator .blockList .item true
  else if c = '?' && (l.bracketed || endsWord next) then l.indicator .blockMap .key (!l.bracketed)
  else if c = ':' && l.atValue held next then l.value
  else if c = '*' then l.content readAnchor .alias
  else if c = '&' then l.content readAnchor .anchor
  else if c = '!' then l.content (readTag l.version) .tag
  else if (c = '|' || c = '>') && !l.bracketed then l.block (c = '>')
  else if c = '\x27' || c = '\"' then l.content (readQuoted c) .quoted
  else if startsPlain l.bracketed c next then l.plain
  else throw .malformed

def approach (l : Lexer) : Except Fault Lexer :=
  let (broken, cursor) := l.cursor.gap l.bracketed
  settle { l with cursor, keyAllowed := l.keyAllowed || (broken && !l.bracketed) }

def turn (l : Lexer) : Except Fault (Bool × Lexer) := do
  let held := !l.candidates.isEmpty
  let l ← l.approach
  match l.cursor.rest with
  | [] => return (true, ← (l.unwind (-1)).release)
  | c :: rest => return (false, ← (l.unwind l.cursor.column).token held c rest.head?)

/-- A key may still begin at the first candidate, so only the tokens before it are known. -/
def breakOff (l : Lexer) (fault : Fault) : Tokens :=
  let count := l.candidates.foldl (fun least k => min least k.position) l.tokens.size
  ⟨l.tokens.toList.take count, some fault⟩

/-- The tokens to the end. Each turn takes a character, so the length of the text is fuel enough. -/
def run : Nat → Lexer → Tokens
  | 0, l => l.breakOff .malformed
  | fuel + 1, l =>
    match l.settle with
    | .error fault => l.breakOff fault
    | .ok l =>
      match l.turn with
      | .error fault => l.breakOff fault
      | .ok (true, l) => ⟨l.tokens.toList, none⟩
      | .ok (false, l) => run fuel l

end Lexer

def tokens (text : Text) : Tokens := (Lexer.ofText text).run (text.length + 1)

end Spacing.Yaml
