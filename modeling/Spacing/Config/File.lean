import Spacing.Config.Document
import Spacing.Yaml.Fault

namespace Spacing.Config

def ofFile (read : Text → Except Yaml.Fault Value) : Option Text → Except Fault Config
  | none => .ok .standard
  | some content =>
    match read content with
    | .error fault => .error (.unreadable fault)
    | .ok document => ofDocument document

end Spacing.Config
