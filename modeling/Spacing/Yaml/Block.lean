import Spacing.Yaml.Cursor
import Spacing.Yaml.Fault

namespace Spacing.Yaml

inductive Chomping
  | strip
  | clip
  | keep
deriving DecidableEq

structure BlockHeader where
  chomping : Chomping
  depth : Option Nat

namespace BlockHeader

def chomping? : Char → Option Chomping
  | '+' => some .keep
  | '-' => some .strip
  | _ => none

def depth? (c : Char) : Option Nat := if c.isDigit then some (c.toNat - 48) else none

def read (c : Cursor) : BlockHeader × Cursor :=
  match c.rest with
  | x :: y :: _ =>
    match chomping? x, depth? y, depth? x, chomping? y with
    | some chomping, some depth, _, _ => (⟨chomping, some depth⟩, c.skip 2)
    | some chomping, none, _, _ => (⟨chomping, none⟩, c.skip 1)
    | none, _, some depth, some chomping => (⟨chomping, some depth⟩, c.skip 2)
    | none, _, some depth, none => (⟨.clip, some depth⟩, c.skip 1)
    | none, _, none, _ => (⟨.clip, none⟩, c)
  | [x] =>
    match chomping? x, depth? x with
    | some chomping, _ => (⟨chomping, none⟩, c.skip 1)
    | none, some depth => (⟨.clip, some depth⟩, c.skip 1)
    | none, none => (⟨.clip, none⟩, c)
  | [] => (⟨.clip, none⟩, c)

end BlockHeader

def restOfLine (c : Cursor) : Except Fault Cursor := do
  let c := c.skipWhile (· == ' ')
  let c := if c.starts (· == '#') then c.skipWhile (!isBreak ·) else c
  require (c.rest.isEmpty || c.starts isBreak)
  return c.skip 1

def toColumn (indent : Nat) (c : Cursor) : Cursor :=
  c.skip ((c.rest.take (indent - c.column)).takeWhile (· == ' ')).length

def blankLines (indent : Nat) : Nat → Text → Cursor → Text × Cursor
  | 0, breaks, c => (breaks, c)
  | fuel + 1, breaks, c =>
    let c := toColumn indent c
    match c.rest.head? with
    | some x =>
      if isBreak x then blankLines indent fuel (breaks ++ [asBreak x]) (c.skip 1) else (breaks, c)
    | none => (breaks, c)

/-- The empty lines before a scalar that does not say how deep it is, how many spaces the first of
them has, and the most that any line has up to where the scalar begins. -/
structure Lead where
  breaks : Text
  first : Option Nat
  most : Nat
  next : Cursor

def leadFrom : Nat → Lead → Lead
  | 0, lead => lead
  | fuel + 1, lead =>
    let c := lead.next.skipWhile (· == ' ')
    let most := max lead.most (if c.index = lead.next.index then 0 else c.column)
    match c.rest.head? with
    | some x =>
      if isBreak x then
        leadFrom fuel ⟨lead.breaks ++ [asBreak x], lead.first.or (some c.column), most, c.skip 1⟩
      else ⟨lead.breaks, lead.first, most, c⟩
    | none => ⟨lead.breaks, lead.first, most, c⟩

def startsDeeper (c : Cursor) : Bool := c.starts isSpace

structure Lines where
  text : Array Char
  last : Text
  breaks : Text
  next : Cursor

/-- Lines are added while they stand at `indent`. Two lines that are not set deeper are folded into
one. A document mark ends a scalar that may start in the first column. -/
def linesFrom (fold atMargin : Bool) (indent : Nat) : Nat → Lines → Lines
  | 0, read => read
  | fuel + 1, read =>
    let c := read.next
    let line := c.rest.takeWhile (!isBreak ·)
    let stop := c.skip line.length
    let last := (stop.rest.take 1).map asBreak
    let (breaks, next) := blankLines indent (stop.rest.length + 1) [] (stop.skip 1)
    let read' : Lines := ⟨read.text ++ read.breaks ++ line, last, breaks, next⟩
    if atMargin && next.column == 0 && next.atMark then read'
    else if next.column = indent && !next.rest.isEmpty then
      let joined : Text :=
        if fold && last == ['\n'] && !startsDeeper c && !startsDeeper next then
          if breaks.isEmpty then [' '] else []
        else last
      linesFrom fold atMargin indent fuel { read' with text := read'.text ++ joined }
    else read'

def readBlock (fold : Bool) (least : Nat) (c : Cursor) : Except Fault (Text × Cursor) := do
  let (header, c) := BlockHeader.read (c.skip 1)
  require (header.depth != some 0)
  require (c.rest.isEmpty || c.starts fun x => x == ' ' || isBreak x)
  let c ← restOfLine c
  let fuel := c.rest.length + 1
  let (indent, start) ←
    match header.depth with
    | some depth =>
      let indent := max least 1 + depth - 1
      let (breaks, next) := blankLines indent fuel [] c
      pure (indent, (⟨#[], [], breaks, next⟩ : Lines))
    | none =>
      let lead := leadFrom fuel ⟨[], none, 0, c⟩
      require (lead.first.all fun first => first = 0 || lead.most ≤ first)
      pure (max least lead.most, ⟨#[], [], lead.breaks, lead.next⟩)
  let atMargin := least = 0 && header.depth.isNone
  let read :=
    if start.next.column = indent && !start.next.rest.isEmpty then
      linesFrom fold atMargin indent fuel start
    else start
  let ending :=
    match header.chomping with
    | .strip => []
    | .clip => read.last
    | .keep => read.last ++ read.breaks
  return (read.text.toList ++ ending, read.next)

end Spacing.Yaml
