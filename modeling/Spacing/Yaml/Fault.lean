import Spacing.Text.Quoted
import Spacing.Value.Basic
import Spacing.Yaml.Version

namespace Spacing.Yaml

/-- A number may have no digit, a wrong one, or too many of them, although it is written like one or
marked as one; it may have several exponents or too many places. An integer may be too long to be
told of. The number in an escape may be no code point, or so huge that it takes over 31 bits. A key
may hold a collection, or be there twice in an ordered mapping. Whatever else is wrong with a
document is not told apart. -/
inductive Fault
  | malformed
  | noDigits
  | notInteger (base : Nat) (written : WideText)
  | tooLong (digits : Nat)
  | unwritable
  | notNumber (written : WideText)
  | manyExponents
  | manyPlaces
  | notTruth (written : WideText)
  | noCodePoint
  | hugeCodePoint
  | calendar (fault : Date.Fault)
  | inKey (collection : Collection)
  | keyTwice
  | noVersion (version : Version)
deriving DecidableEq

namespace Fault

def shownLength : Nat := 200

def collectionName : Collection → String
  | .list => "list"
  | .map => "dict"
  | .ordered => "ordereddict"
  | .set => "set"

def message : Fault → Text
  | malformed | keyTwice => []
  | noDigits => "string index out of range".toList
  | notInteger base written =>
    "invalid literal for int() with base ".toList ++ Text.ofNat base ++ ':' :: ' ' ::
      written.quoted.take shownLength
  | tooLong digits =>
    "Exceeds the limit (".toList ++ Text.ofNat maxDigits ++
      " digits) for integer string conversion: value has ".toList ++ Text.ofNat digits ++
      " digits; use sys.set_int_max_str_digits() to increase the limit".toList
  | unwritable => Text.unwritableMessage
  | notNumber written => "could not convert string to float: ".toList ++ written.quoted
  | manyExponents => "too many values to unpack (expected 2)".toList
  | manyPlaces => "int too large to convert to float".toList
  | notTruth written => written.quoted
  | noCodePoint => "chr() arg not in range(0x110000)".toList
  | hugeCodePoint => "Python int too large to convert to C int".toList
  | calendar fault => fault.message
  | inKey collection =>
    "unhashable type: ".toList ++ WideText.quoted (Text.wide (collectionName collection).toList)
  | noVersion version => version.plain

end Fault

def require (p : Bool) : Except Fault Unit := if p then .ok () else .error .malformed

def demand {α : Type} : Option α → Except Fault α
  | some a => .ok a
  | none => .error .malformed

end Spacing.Yaml
