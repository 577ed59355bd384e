import Spacing.Decimal.Layout
import Spacing.Text.Quoted
import Spacing.Value.Basic

namespace Spacing

namespace Text

def listed (items : List Text) : Text := [',', ' '].intercalate items

def applied (name : String) (arguments : List Text) : Text :=
  name.toList ++ '(' :: listed arguments ++ [')']

def braced (items : List Text) : Text := '\x7b' :: listed items ++ ['\x7d']

def parenthesized : List Text → Text
  | [item] => '(' :: item ++ [',', ')']
  | items => '(' :: listed items ++ [')']

def ofByte (quote : Char) (byte : UInt8) : Text :=
  let c := Char.ofNat byte.toNat
  if c = quote ∨ c = '\\' then ['\\', c]
  else if c = '\n' then ['\\', 'n']
  else if c = '\t' then ['\\', 't']
  else if c = '\r' then ['\\', 'r']
  else if ' ' ≤ c ∧ c ≤ '~' then [c]
  else '\\' :: 'x' :: hexadecimal 2 byte.toNat

def ofBytes (bytes : List UInt8) : Text :=
  let quote := if bytes.contains 0x27 && !bytes.contains 0x22 then '\"' else '\x27'
  'b' :: quote :: bytes.flatMap (ofByte quote) ++ [quote]

end Text

def Date.numbers (d : Date) : List Nat := [d.year, d.month, d.day]

def Moment.numbers (m : Moment) : List Nat :=
  m.date.numbers ++ [m.hour, m.minute] ++
    if m.micro != 0 then [m.second, m.micro] else if m.second != 0 then [m.second] else []

def Zone.literal (z : Zone) : Text :=
  Text.applied "datetime.timezone" [spanLiteral z.ahead, z.name.wide.quoted]

def Moment.literal (m : Moment) : Text :=
  let zone := m.zone.toList.map fun z => "tzinfo=".toList ++ z.literal
  Text.applied "datetime.datetime" (m.numbers.map Text.ofNat ++ zone)

def Scalar.literal : Scalar → Text
  | null => "None".toList
  | bool value => if value then "True".toList else "False".toList
  | int value => Text.ofInt value
  | float value _ => Decimal.standardLayout.float value
  | date value => Text.applied "datetime.date" (value.numbers.map Text.ofNat)
  | moment value => value.literal
  | str text => text.quoted
  | bytes value => Text.ofBytes value

namespace Key

mutual

def literal : Key → Text
  | scalar value => value.literal
  | tuple items => Text.parenthesized (literals items)

def literals : List Key → List Text
  | [] => []
  | key :: rest => key.literal :: literals rest

end

end Key

namespace Value

mutual

def literal : Value → Text
  | scalar value => value.literal
  | tuple items => Text.parenthesized (literals items)
  | list items => Text.bracketed (literals items)
  | map entries => Text.braced (entryLiterals (fun key value => key ++ ':' :: ' ' :: value) entries)
  | ordered entries =>
    let pairs := entryLiterals (fun key value => Text.parenthesized [key, value]) entries
    Text.applied "ordereddict" (if entries.isEmpty then [] else [Text.bracketed pairs])
  | set keys => if keys.isEmpty then "set()".toList else Text.braced (Key.literals keys)
  | again .list => "[...]".toList
  | again .map => "\x7b...\x7d".toList
  | again _ => "...".toList

def literals : List Value → List Text
  | [] => []
  | value :: rest => value.literal :: literals rest

def entryLiterals (join : Text → Text → Text) : List (Key × Value) → List Text
  | [] => []
  | (key, value) :: rest => join key.literal value.literal :: entryLiterals join rest

end

/-- A text alone stands without quotes, and a date or time as it is commonly written; inside a
collection they are literals. -/
def plain : Value → WideText
  | scalar (.str text) => text
  | scalar (.date value) => value.plain.wide
  | scalar (.moment value) => value.plain.wide
  | value => value.literal.wide

end Value
end Spacing
