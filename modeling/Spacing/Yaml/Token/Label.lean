import Spacing.Yaml.Cursor
import Spacing.Yaml.Number
import Spacing.Yaml.Token.Basic

namespace Spacing.Yaml

def isWordChar (c : Char) : Bool := c.isAlphanum || c ∈ ['-', '_']

def isNameChar (v : Version) (c : Char) : Bool :=
  c.isAlphanum || "-;/?:@&=+$,_.!~*'()[]%".toList.contains c || v.isLate && c == '#'

/-- A tag or directive ends at a space, a break or the end, not at a tab. -/
def atGap (c : Cursor) : Bool := c.rest.isEmpty || c.starts fun x => x == ' ' || isBreak x

/-! ## Names of nodes -/

def isAnchorChar (c : Char) : Bool :=
  !(c ∈ [',', '[', ']', '\x7b', '\x7d', '\ufeff']) && 0x20 < c.toNat &&
    (c.toNat < 0x7F || 0xA0 ≤ c.toNat)

def readAnchor (c : Cursor) : Except Fault (Text × Cursor) := do
  let name := (c.rest.drop 1).takeWhile isAnchorChar
  let next := c.skip (name.length + 1)
  require (!name.isEmpty)
  require (endsWord next.rest.head? || next.starts fun x => x ∈ [',', '[', ']', '\x7b', '\x7d'])
  return (name, next)

/-! ## Tags -/

def readHandle (c : Cursor) : Except Fault (Text × Cursor) := do
  let word := (c.rest.drop 1).takeWhile isWordChar
  let next := c.skip (word.length + 1)
  if c.starts (· == '!') && (c.rest.drop 1).head? == some ' ' then return (['!'], c.skip 1)
  require (c.starts (· == '!') && next.starts (· == '!'))
  return ('!' :: word ++ ['!'], next.skip 1)

/-- Bytes that are escaped one behind the other have to be a text in their common encoding. Those in
`row` stand directly before the text. -/
def checkEscapes (row : List UInt8) : Text → Except Fault Unit
  | '%' :: high :: low :: rest => do
    require (isDigitIn 16 high && isDigitIn 16 low)
    checkEscapes (row ++ [UInt8.ofNat (numeral 16 [high, low])]) rest
  | '%' :: _ => .error .malformed
  | _ :: rest => do
    require (isEncoded row)
    checkEscapes [] rest
  | [] => require (isEncoded row)
where
  isEncoded (bytes : List UInt8) : Bool := (String.fromUTF8? ⟨bytes.toArray⟩).isSome

def unescaped : Text → Text
  | '%' :: high :: low :: rest => Char.ofNat (numeral 16 [high, low]) :: unescaped rest
  | c :: rest => c :: unescaped rest
  | [] => []

def readName (v : Version) (c : Cursor) : Except Fault (Text × Cursor) := do
  let name := c.rest.takeWhile (isNameChar v)
  require (!name.isEmpty)
  checkEscapes [] name
  return (name, c.skip name.length)

/-- A second exclamation mark before the next gap ends a handle. In the name a byte that is escaped
stands for the character with its number. -/
def readTag (v : Version) (c : Cursor) : Except Fault (Tag × Cursor) := do
  let double := (c.rest.drop 1).head? == some '!'
  let short : Text := if double then ['!', '!'] else ['!']
  let c := if double then c.skip 1 else c
  let rest := c.rest.drop 1
  let (tag, next) ←
    if rest.head? == some '<' then do
      let (name, next) ← readName v (c.skip 2)
      require (next.starts (· == '>'))
      pure ((⟨none, unescaped name⟩ : Tag), next.skip 1)
    else if endsWord rest.head? then pure (⟨none, short⟩, c.skip 1)
    else do
      let word := rest.takeWhile fun x => !(x == ' ' || isBreak x)
      let (handle, next) ← if '!' ∈ word then readHandle c else pure (short, c.skip 1)
      let (name, next) ← readName v next
      pure (⟨some handle, unescaped name⟩, next)
  require (atGap next)
  return (tag, next)

/-! ## Directives -/

def readNumber (c : Cursor) : Except Fault (Nat × Cursor) := do
  let digits := c.rest.takeWhile Char.isDigit
  require (!digits.isEmpty)
  if maxDigits < digits.length then throw (.tooLong digits.length)
  return (numeral 10 digits, c.skip digits.length)

def toWord (c : Cursor) : Cursor := c.skipWhile (· == ' ')

def readDirective (v : Version) (c : Cursor) : Except Fault (Directive × Cursor) := do
  let name := (c.rest.drop 1).takeWhile fun x => isWordChar x || x ∈ [':', '.']
  let c := c.skip (name.length + 1)
  require (!name.isEmpty && atGap c)
  let (directive, c) ←
    if name = "YAML".toList then do
      let (major, c) ← readNumber (toWord c)
      require (c.starts (· == '.'))
      let (minor, c) ← readNumber (c.skip 1)
      require (atGap c)
      pure (.version ⟨major, minor⟩, c)
    else if name = "TAG".toList then do
      let (handle, c) ← readHandle (toWord c)
      require (c.starts (· == ' '))
      let (meaning, c) ← readName v (toWord c)
      require (atGap c)
      pure (.handle handle meaning, c)
    else pure (.other, c.skipWhile (!isBreak ·))
  let c := toWord c
  let c := if c.starts (· == '#') then c.skipWhile (!isBreak ·) else c
  require (c.rest.isEmpty || c.starts isBreak)
  return (directive, c.skip 1)

end Spacing.Yaml
