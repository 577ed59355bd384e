import Spacing.Yaml.Assembly.Builder
import Spacing.Yaml.Node.Reader
import Spacing.Yaml.Token.Lexer

namespace Spacing.Yaml

def normalLines : Text → Text
  | [] => []
  | '\r' :: '\n' :: rest => '\n' :: normalLines rest
  | '\r' :: rest => '\n' :: normalLines rest
  | c :: rest => c :: normalLines rest

def isReadable (c : Char) : Bool :=
  c == '\t' || c == '\n' || c == '\u0085' || (0x20 ≤ c.toNat && c.toNat < 0x7F) ||
    (0xA0 ≤ c.toNat && c.toNat != 0xFFFE && c.toNat != 0xFFFF)

def read (source : Text) : Except Fault Value := do
  let text := normalLines source
  require (text.all isReadable)
  let (root, graph) ← Reading.document (tokens text)
  graph.value root

end Spacing.Yaml
