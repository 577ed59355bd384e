import Spacing.Text.Basic

namespace Spacing.Yaml

def isBreak (c : Char) : Bool := c == '\n' || c == '\u0085' || c == '\u2028' || c == '\u2029'

def isSpace (c : Char) : Bool := c == ' ' || c == '\t'

def endsWord (next : Option Char) : Bool := next.all fun c => isSpace c || isBreak c

/-- The break characters count as line feeds, but for two that stand for themselves. -/
def asBreak (c : Char) : Char := if c == '\u0085' then '\n' else c

structure Cursor where
  rest : Text
  index : Nat
  line : Nat
  column : Nat

namespace Cursor

/-- Past so many characters. A byte order mark takes no column. -/
def skip : Nat → Cursor → Cursor
  | 0, c => c
  | count + 1, c =>
    match c.rest with
    | [] => c
    | x :: rest =>
      if x = '\n' then skip count ⟨rest, c.index + 1, c.line + 1, 0⟩
      else skip count ⟨rest, c.index + 1, c.line, if x = '\ufeff' then c.column else c.column + 1⟩

def skipWhile (c : Cursor) (p : Char → Bool) : Cursor := c.skip (c.rest.takeWhile p).length

def starts (c : Cursor) (p : Char → Bool) : Bool := c.rest.head?.any p

def atMark (c : Cursor) : Bool :=
  (c.rest.take 3 == ['-', '-', '-'] || c.rest.take 3 == ['.', '.', '.']) &&
    endsWord (c.rest.drop 3).head?

/-- Past spaces, comments and breaks, and whether there was a break. Tabs are passed over between
brackets alone. Each turn passes a break, so the length of the rest is fuel enough. -/
def gapFrom (bracketed : Bool) : Nat → Bool → Cursor → Bool × Cursor
  | 0, broken, c => (broken, c)
  | fuel + 1, broken, c =>
    let c := c.skipWhile fun x => x == ' ' || bracketed && x == '\t'
    let c := if c.starts (· == '#') then c.skipWhile (!isBreak ·) else c
    if c.starts isBreak then gapFrom bracketed fuel true (c.skip 1) else (broken, c)

def gap (c : Cursor) (bracketed : Bool) : Bool × Cursor :=
  gapFrom bracketed (c.rest.length + 1) false c

end Cursor
end Spacing.Yaml
