import Spacing.Value.Basic
import Spacing.Yaml.Number

namespace Spacing.Yaml

structure Clock where
  hour : Text
  minute : Text
  second : Text
  fraction : Text
  zone : Option (Int × Text)

/-- The part of a second in microseconds, rounded at the seventh digit. It may round up to a whole
second. -/
def Clock.micro (c : Clock) : Nat :=
  numeral 10 ((c.fraction ++ List.replicate 6 '0').take 6) +
    if (c.fraction[6]?).any fun digit => 4 < digitValue digit then 1 else 0

structure Timestamp where
  year : Text
  month : Text
  day : Text
  clock : Option Clock

/-- A text is written in a way whether or not one line break ends it. -/
def withoutBreak (text : Text) : Text := if text.getLast? == some '\n' then text.dropLast else text

namespace Timestamp

def digits? (least most : Nat) (text : Text) : Option (Text × Text) :=
  let digits := (text.take most).takeWhile Char.isDigit
  if least ≤ digits.length then some (digits, text.drop digits.length) else none

def after? (mark : Char) : Text → Option Text
  | c :: rest => if c = mark then some rest else none
  | [] => none

def zone? (text : Text) : Option (Int × Text) :=
  match text with
  | ['Z'] => some (0, text)
  | sign :: rest => do
    guard (sign == '+' || sign == '-')
    let (hours, rest) ← digits? 1 2 rest
    let (minutes, rest) ←
      if rest.isEmpty then some ([], []) else (after? ':' rest).bind (digits? 2 2)
    guard rest.isEmpty
    let seconds : Int := (numeral 10 hours * 60 + numeral 10 minutes : Nat) * 60
    return (signed (sign == '-') seconds, text)
  | [] => none

def clock? (text : Text) : Option Clock := do
  let isSpace (c : Char) : Bool := c == ' ' || c == '\t'
  let text ← match text with
    | 'T' :: rest | 't' :: rest => some rest
    | ' ' :: rest | '\t' :: rest => some (rest.dropWhile isSpace)
    | _ => none
  let (hour, text) ← digits? 1 2 text
  let (minute, text) ← (after? ':' text).bind (digits? 2 2)
  let (second, text) ← (after? ':' text).bind (digits? 2 2)
  let fraction := match after? '.' text with | some rest => rest.takeWhile Char.isDigit | none => []
  let text := match after? '.' text with | some rest => rest.dropWhile Char.isDigit | none => text
  let zone ← if text.isEmpty then some none else some <$> zone? (text.dropWhile isSpace)
  return { hour, minute, second, fraction, zone }

def read? (text : Text) : Option Timestamp := do
  let (year, text) ← digits? 4 4 (withoutBreak text)
  let (month, text) ← (after? '-' text).bind (digits? 1 2)
  let (day, text) ← (after? '-' text).bind (digits? 1 2)
  return { year, month, day, clock := ← if text.isEmpty then some none else some <$> clock? text }

def isWritten (text : Text) : Bool :=
  (read? text).any fun t => t.clock.isSome || t.month.length = 2 && t.day.length = 2

/-- The bounds of the zone come before those of the day and the hour. -/
def value (t : Timestamp) : Except Date.Fault Scalar := do
  let date := Date.of (numeral 10 t.year) (numeral 10 t.month) (numeral 10 t.day)
  match t.clock with
  | none => return .date (← date)
  | some c =>
    let zone ← c.zone.mapM fun (ahead, name) => Zone.of ahead name
    let carries : Bool := 999999 < c.micro
    let moment ← Moment.of (← date) (numeral 10 c.hour) (numeral 10 c.minute) (numeral 10 c.second)
      (if carries then 0 else c.micro) zone
    Scalar.moment <$> if carries then moment.next else .ok moment

end Timestamp
end Spacing.Yaml
