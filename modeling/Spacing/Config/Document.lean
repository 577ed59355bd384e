import Spacing.Config.Basic
import Spacing.Value.Literal
import Spacing.Yaml.Fault

namespace Spacing.Config

inductive Fault
  | unreadable (fault : Yaml.Fault)
  | notMapping
  | unsupportedSchema (value : Value)
  | notInteger (value : Value)
  | tabWidth (fault : TabWidth.Fault)
  | unwritable

def Fault.message : Fault → WideText
  | .unreadable fault => fault.message.wide
  | .notMapping => Text.wide "wschanges.yaml: expected a mapping at the top level".toList
  | .unsupportedSchema value =>
    Text.wide "Unsupported config schema ".toList ++ value.plain ++
      Text.wide " (tool expects 1)".toList
  | .notInteger value => Text.wide ("tab_width must be an integer, got ".toList ++ value.literal)
  | .tabWidth fault => fault.message.wide
  | .unwritable => Text.wide Text.unwritableMessage

inductive Fault.Kind
  | reading
  | runtime
  | value
deriving DecidableEq

/-- Whatever was to be told, it is the value that cannot be written. -/
def Fault.kind : Fault → Kind
  | .unreadable _ => .reading
  | .notMapping | .unsupportedSchema _ => .runtime
  | .notInteger _ | .tabWidth _ | .unwritable => .value

def Fault.about (value : Value) (fault : Fault) : Fault :=
  if value.isWritable then fault else .unwritable

/-- A truth value is no integer here. -/
def ofTabWidth : Value → Except Fault Config
  | .scalar (.int columns) =>
    match TabWidth.of columns with
    | .ok width => .ok ⟨width⟩
    | .error fault => .error (.about (.scalar (.int columns)) (.tabWidth fault))
  | value => .error (.about value (.notInteger value))

def ofEntries (entries : List (Key × Value)) : Except Fault Config :=
  match Value.field? entries "tab_width".toList with
  | none => .ok .standard
  | some value => ofTabWidth value

def defaults : List (Key × Value) :=
  [(.scalar (.str (Text.wide "schema_version".toList)), .scalar (.int 1)),
    (.scalar (.str (Text.wide "tab_width".toList)), .scalar (.int 4))]

/-- The schema is checked before the settings; without one the current schema is meant. What the
document gives overrides the defaults. -/
def ofMapping (entries : List (Key × Value)) : Except Fault Config :=
  match Value.field? entries "schema_version".toList with
  | none => ofEntries (Key.putAll defaults entries)
  | some version =>
    if version.equalsOne then ofEntries (Key.putAll defaults entries)
    else .error (.about version (.unsupportedSchema version))

def ofDocument (document : Value) : Except Fault Config :=
  if document.isFalsy then ofMapping []
  else
    match document with
    | .map entries | .ordered entries => ofMapping entries
    | _ => .error .notMapping

end Spacing.Config
