import Spacing.Text.CodePoint

namespace Spacing

namespace Text

def visibleChar (c : Char) : Text :=
  if c = '\t' then ['\\', 't']
  else if c = '\r' then ['\\', 'r']
  else if c = '\x08' then ['\\', 'b']
  else if c = '\n' then ['\\', 'n']
  else if c = '\x27' then ['\\', '\x27']
  else if c = '\"' then ['\\', '\"']
  else if c = '\\' then ['\\', '\\']
  else if c < ' ' then '\\' :: 'u' :: hexadecimal 4 c.toNat
  else [c]

def visible (text : Text) : Text := text.flatMap visibleChar

def visibleQuoted (text : Text) : Text := '\x27' :: text.visible ++ ['\x27']

end Text

def CodePoint.visible : CodePoint → WideText
  | .char c => (Text.visibleChar c).wide
  | .surrogate place => [.surrogate place]

def WideText.visibleQuoted (text : WideText) : WideText :=
  .char '\x27' :: text.flatMap CodePoint.visible ++ [.char '\x27']

end Spacing
