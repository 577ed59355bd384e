import Spacing.Base64
import Spacing.Yaml.Timestamp

namespace Spacing.Yaml

/-- The key `merge` draws entries in from other mappings; `default` is text when it is a key. -/
inductive Kind
  | null
  | bool
  | int
  | float
  | timestamp
  | binary
  | str
  | list
  | map
  | ordered
  | pairs
  | set
  | merge
  | default
  | unknown
deriving DecidableEq

namespace Kind

def truths : List (String × Bool) :=
  [("yes", true), ("no", false), ("y", true), ("n", false), ("true", true), ("false", false),
    ("on", true), ("off", false)]

def isTruth (v : Version) (text : Text) : Bool :=
  let plain := ["true", "True", "TRUE", "false", "False", "FALSE"]
  let early := ["y", "Y", "yes", "Yes", "YES", "n", "N", "no", "No", "NO", "on", "On", "ON", "off",
    "Off", "OFF"]
  ((if v.isEarly then plain ++ early else plain).map String.toList).contains text

def ofWritten (v : Version) (text : Text) : Kind :=
  let isOneOf (names : List String) : Bool := (names.map String.toList).contains text
  let isFraction := if v.isEarly then isEarlyFraction text else isFraction text
  let isInteger := if v.isEarly then isEarlyInteger text else isInteger text
  if isTruth v text then bool
  else if isFraction || isNamed text then float
  else if isInteger then int
  else if isOneOf ["<<"] then merge
  else if isOneOf ["", "~", "null", "Null", "NULL"] then null
  else if Timestamp.isWritten text then timestamp
  else if isOneOf ["="] then default
  else if isOneOf ["!", "&", "*"] then unknown
  else str

/-- No text is written in a way in a version that is not known. -/
def ofText (v : Version) (text : WideText) : Except Fault Kind :=
  if !v.isKnown then .error (.noVersion v)
  else
    match text.narrow? with
    | some narrow => .ok (if narrow == ['\n'] then .str else ofWritten v (withoutBreak narrow))
    | none => .ok .str

def origin : Text := "tag:yaml.org,2002:".toList

def ofName (name : Text) : Kind :=
  let names := [("null", null), ("bool", bool), ("int", int), ("float", float),
    ("timestamp", timestamp), ("binary", binary), ("str", str), ("seq", list), ("map", map),
    ("omap", ordered), ("pairs", pairs), ("set", set), ("merge", merge), ("value", default)]
  (names.find? fun entry => origin ++ entry.1.toList == name).elim unknown Prod.snd

def scalar (kind : Kind) (v : Version) (mark : Nat) (text : WideText) : Except Fault Scalar :=
  match kind with
  | .null => .ok .null
  | .str => .ok (.str text)
  | .bool =>
    let name := text.lower
    match truths.find? fun entry => Text.wide entry.1.toList == name with
    | some entry => .ok (.bool entry.2)
    | none => .error (.notTruth name)
  | .int => Scalar.int <$> integer v text
  | .float => fraction v mark text
  | .timestamp => do
    let t ← demand (text.narrow?.bind Timestamp.read?)
    t.value.mapError Fault.calendar
  | .binary => do
    let narrow ← demand text.narrow?
    require (narrow.all fun c => c.toNat < 0x80)
    Scalar.bytes <$> demand (Base64.decode narrow)
  | _ => .error .malformed

end Kind
end Spacing.Yaml
