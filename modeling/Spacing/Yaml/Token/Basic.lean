import Spacing.Yaml.Fault

namespace Spacing.Yaml

structure Tag where
  handle : Option Text
  name : Text
deriving DecidableEq

inductive Directive
  | version (v : Version)
  | handle (name meaning : Text)
  | other
deriving DecidableEq

inductive Token
  | directive (d : Directive)
  | documentStart
  | documentEnd
  | blockList
  | blockMap
  | blockEnd
  | item
  | key
  | value
  | openList
  | closeList
  | openMap
  | closeMap
  | comma
  | anchor (name : Text)
  | alias (name : Text)
  | tag (t : Tag)
  | plain (text : Text)
  | quoted (text : WideText)
deriving DecidableEq

/-- The tokens that are known, and the fault behind the last of them if that is not all. It comes up
where one more token is needed, so what is wrong with the known tokens comes before it. -/
structure Tokens where
  known : List Token
  fault : Option Fault

end Spacing.Yaml
