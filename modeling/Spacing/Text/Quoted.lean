import Spacing.Text.CodePoint
import Spacing.Text.Printable

namespace Spacing

def Text.quotedChar (quote c : Char) : Text :=
  if c = quote ∨ c = '\\' then ['\\', c]
  else if c = '\n' then ['\\', 'n']
  else if c = '\t' then ['\\', 't']
  else if c = '\r' then ['\\', 'r']
  else if isPrintable c then [c]
  else if c.toNat < 0x100 then '\\' :: 'x' :: hexadecimal 2 c.toNat
  else if c.toNat < 0x10000 then '\\' :: 'u' :: hexadecimal 4 c.toNat
  else '\\' :: 'U' :: hexadecimal 8 c.toNat

namespace WideText

def quotedPoint (quote : Char) : CodePoint → Text
  | .char c => Text.quotedChar quote c
  | p => '\\' :: 'u' :: Text.hexadecimal 4 p.toNat

def quotedWith (quote : Char) (text : WideText) : Text :=
  quote :: text.flatMap (quotedPoint quote) ++ [quote]

def quoted (text : WideText) : Text :=
  if text.contains (.char '\x27') && !text.contains (.char '\"') then text.quotedWith '\"'
  else text.quotedWith '\x27'

end WideText
end Spacing
