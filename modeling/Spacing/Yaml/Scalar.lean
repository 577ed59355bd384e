import Spacing.Text.CodePoint
import Spacing.Yaml.Cursor
import Spacing.Yaml.Number

namespace Spacing.Yaml

def folded (first : Char) (breaks : Text) : Text :=
  if asBreak first != '\n' then asBreak first :: breaks
  else if breaks.isEmpty then [' ']
  else breaks

/-! ## Without quotes -/

def isBracketMark (c : Char) : Bool := c ∈ [',', '[', ']', '\x7b', '\x7d']

/-- Indicators start no such scalar, though a hyphen does before a word, and outside brackets so do
a question mark and a colon. Between brackets a colon that ends no key starts one as well. -/
def startsPlain (bracketed : Bool) (c : Char) (next : Option Char) : Bool :=
  if c = '-' then !endsWord next
  else if c = ':' then !(if bracketed then next.any isSpace else endsWord next)
  else if c = '?' then !bracketed && !endsWord next
  else !(isSpace c || isBreak c || isBracketMark c ||
    c ∈ ['#', '&', '*', '!', '|', '>', '\x27', '\"', '%', '@', '\x60'])

structure PlainSetting where
  bracketed : Bool
  early : Bool
  least : Int

/-- The characters up to a space, a break or a colon that stands alone, and between brackets up to
one of their marks, of which the question mark is one in the early version. -/
def plainRun (s : PlainSetting) : Text → Text
  | [] => []
  | c :: rest =>
    let loneColon := c = ':' && endsWord rest.head?
    let mark := s.bracketed && (isBracketMark c || s.early && c == '?')
    if isSpace c || isBreak c || loneColon || mark then [] else c :: plainRun s rest

/-- Past the spaces and breaks of empty lines, with the breaks. There is no answer where a line
starts with a document mark. -/
def emptyLines? (isBlank : Char → Bool) : Nat → Text → Cursor → Option (Text × Cursor)
  | 0, _, _ => none
  | fuel + 1, breaks, c =>
    if c.atMark then none
    else
      let c := c.skipWhile isBlank
      match c.rest.head? with
      | none => some (breaks, c)
      | some x =>
        if isBreak x then emptyLines? isBlank fuel (breaks ++ [asBreak x]) (c.skip 1)
        else some (breaks, c)

/-- What lies between two runs: the text it is read as, whether it holds a break, and the place
behind it. Nothing is read before a document mark. -/
def plainGap (c : Cursor) : Text × Bool × Cursor :=
  let spaces := c.rest.takeWhile (· == ' ')
  let c := c.skip spaces.length
  match c.rest.head? with
  | none => (spaces, false, c)
  | some x =>
    if isBreak x then
      match emptyLines? (· == ' ') (c.rest.length + 1) [] (c.skip 1) with
      | some (breaks, next) => (folded x breaks, true, next)
      | none => ([], true, (c.skip 1).skipWhile fun x => x == ' ' || isBreak x)
    else (spaces, false, c)

structure PlainRead where
  text : Text
  broken : Bool
  next : Cursor

/-- Runs are added while they stand deep enough, which between brackets does not matter, and no
comment comes between. Each takes a character, so the length of the rest is fuel enough. -/
def plainFrom (s : PlainSetting) : Nat → Array Char → Text → Bool → Cursor → PlainRead
  | 0, done, _, broken, c => ⟨done.toList, broken, c⟩
  | fuel + 1, done, gap, broken, c =>
    let run := plainRun s c.rest
    if run.isEmpty || c.starts (· == '#') then ⟨done.toList, broken, c⟩
    else
      let (gap', broken', c') := plainGap (c.skip run.length)
      let done := done ++ gap ++ run
      if gap'.isEmpty || c'.starts (· == '#') || !s.bracketed && (c'.column : Int) < s.least then
        ⟨done.toList, broken', c'⟩
      else plainFrom s fuel done gap' broken' c'

def readPlain (s : PlainSetting) (c : Cursor) : PlainRead :=
  plainFrom s (c.rest.length + 1) #[] [] false c

/-! ## Between quotes -/

def escaped? : Char → Option Char
  | '0' => some '\x00'
  | 'a' => some '\x07'
  | 'b' => some '\x08'
  | 't' => some '\t'
  | '\t' => some '\t'
  | 'n' => some '\n'
  | 'v' => some '\x0b'
  | 'f' => some '\x0c'
  | 'r' => some '\r'
  | 'e' => some '\x1b'
  | ' ' => some ' '
  | '\"' => some '\"'
  | '/' => some '/'
  | '\\' => some '\\'
  | 'N' => some '\u0085'
  | '_' => some '\u00a0'
  | 'L' => some '\u2028'
  | 'P' => some '\u2029'
  | _ => none

def escapeWidth? : Char → Option Nat
  | 'x' => some 2
  | 'u' => some 4
  | 'U' => some 8
  | _ => none

def codePoint (width : Nat) (digits : Text) : Except Fault CodePoint := do
  require (digits.length = width && digits.all (isDigitIn 16))
  let number := numeral 16 digits
  match CodePoint.ofNat? number with
  | some p => return p
  | none => throw (if number < 0x80000000 then .noCodePoint else .hugeCodePoint)

def readEscape (c : Cursor) : Except Fault (WideText × Cursor) := do
  match c.rest with
  | [] => throw .malformed
  | x :: rest =>
    match escaped? x, escapeWidth? x with
    | some plain, _ => return ([.char plain], c.skip 1)
    | none, some width => return ([← codePoint width (rest.take width)], c.skip (width + 1))
    | none, none =>
      require (isBreak x)
      let (breaks, next) ← demand (emptyLines? isSpace (rest.length + 1) [] (c.skip 1))
      return (breaks.wide, next)

/-- Up to the closing quote, which single quotes write twice to mean one. -/
def quotedFrom (quote : Char) :
    Nat → Array CodePoint → Cursor → Except Fault (WideText × Cursor)
  | 0, _, _ => throw .malformed
  | fuel + 1, done, c => do
    let x ← demand c.rest.head?
    if isSpace x || isBreak x then
      let spaces : Text := c.rest.takeWhile isSpace
      let c := c.skip spaces.length
      let first ← demand c.rest.head?
      if isBreak first then
        let (breaks, c) ← demand (emptyLines? isSpace (c.rest.length + 1) [] (c.skip 1))
        quotedFrom quote fuel (done ++ (folded first breaks).wide) c
      else quotedFrom quote fuel (done ++ spaces.wide) c
    else if x = quote then
      if quote = '\x27' && (c.rest.drop 1).head? = some '\x27' then
        quotedFrom quote fuel (done.push (.char quote)) (c.skip 2)
      else return (done.toList, c.skip 1)
    else if x = '\\' && quote = '\"' then
      let (plain, c) ← readEscape (c.skip 1)
      quotedFrom quote fuel (done ++ plain) c
    else quotedFrom quote fuel (done.push (.char x)) (c.skip 1)

def readQuoted (quote : Char) (c : Cursor) : Except Fault (WideText × Cursor) :=
  quotedFrom quote (c.rest.length + 1) #[] (c.skip 1)

end Spacing.Yaml
