import Spacing.Text.Basic

namespace Spacing

structure Date where
  year : Nat
  month : Nat
  day : Nat
deriving DecidableEq

structure Zone where
  ahead : Int
  name : Text
deriving DecidableEq

structure Moment where
  date : Date
  hour : Nat
  minute : Nat
  second : Nat
  micro : Nat
  zone : Option Zone
deriving DecidableEq

def spanLiteral (seconds : Int) : Text :=
  let days := seconds.ediv 86400
  let rest := seconds.emod 86400
  let part (name : String) (n : Int) : List Text :=
    if n = 0 then [] else [name.toList ++ '=' :: Text.ofInt n]
  let parts := part "days" days ++ part "seconds" rest
  let shown := if parts.isEmpty then [['0']] else parts
  "datetime.timedelta(".toList ++ [',', ' '].intercalate shown ++ [')']

namespace Date

inductive Fault
  | year (n : Nat)
  | month
  | day
  | hour
  | minute
  | second
  | zone (ahead : Int)
  | beyond
deriving DecidableEq

def Fault.message : Fault → Text
  | year n => "year ".toList ++ Text.ofNat n ++ " is out of range".toList
  | month => "month must be in 1..12".toList
  | day => "day is out of range for month".toList
  | hour => "hour must be in 0..23".toList
  | minute => "minute must be in 0..59".toList
  | second => "second must be in 0..59".toList
  | zone ahead =>
    "offset must be a timedelta strictly between ".toList ++
      "-timedelta(hours=24) and timedelta(hours=24), not ".toList ++ spanLiteral ahead ++ ['.']
  | beyond => "date value out of range".toList

def lastYear : Nat := 9999

def isLeap (year : Nat) : Bool := year % 4 = 0 && (year % 100 != 0 || year % 400 = 0)

def daysIn (year month : Nat) : Nat :=
  if month = 2 then if isLeap year then 29 else 28
  else if month ∈ [4, 6, 9, 11] then 30 else 31

def of (year month day : Nat) : Except Fault Date :=
  if year = 0 ∨ lastYear < year then .error (.year year)
  else if month = 0 ∨ 12 < month then .error .month
  else if day = 0 ∨ daysIn year month < day then .error .day
  else .ok ⟨year, month, day⟩

def next (d : Date) : Date :=
  if d.day < daysIn d.year d.month then { d with day := d.day + 1 }
  else if d.month < 12 then ⟨d.year, d.month + 1, 1⟩
  else ⟨d.year + 1, 1, 1⟩

/-- The number of the day, counted from the first day of the first year. -/
def number (d : Date) : Nat :=
  let before := d.year - 1
  let months := ((List.range d.month).drop 1).foldl (fun days month => days + daysIn d.year month) 0
  before * 365 + before / 4 - before / 100 + before / 400 + months + d.day

def padded (width n : Nat) : Text :=
  let digits := Text.ofNat n
  List.replicate (width - digits.length) '0' ++ digits

def plain (d : Date) : Text :=
  padded 4 d.year ++ '-' :: padded 2 d.month ++ '-' :: padded 2 d.day

end Date

namespace Zone

def of (ahead : Int) (name : Text) : Except Date.Fault Zone :=
  if 86400 ≤ ahead.natAbs then .error (.zone ahead) else .ok ⟨ahead, name⟩

def plain (z : Zone) : Text :=
  let minutes := z.ahead.natAbs / 60
  (if z.ahead < 0 then '-' else '+') :: Date.padded 2 (minutes / 60) ++
    ':' :: Date.padded 2 (minutes % 60)

end Zone

namespace Moment

def of (date : Date) (hour minute second micro : Nat) (zone : Option Zone) :
    Except Date.Fault Moment :=
  if 23 < hour then .error .hour
  else if 59 < minute then .error .minute
  else if 59 < second then .error .second
  else .ok { date, hour, minute, second, micro, zone }

def next (m : Moment) : Except Date.Fault Moment :=
  if m.second < 59 then .ok { m with second := m.second + 1 }
  else if m.minute < 59 then .ok { m with minute := m.minute + 1, second := 0 }
  else if m.hour < 23 then .ok { m with hour := m.hour + 1, minute := 0, second := 0 }
  else
    let date := m.date.next
    if Date.lastYear < date.year then .error .beyond
    else .ok { m with date, hour := 0, minute := 0, second := 0 }

def ticks (m : Moment) : Nat :=
  (((m.date.number * 24 + m.hour) * 60 + m.minute) * 60 + m.second) * 1000000 + m.micro

/-- In zones two moments are the same at the same instant. Without a zone a moment is no instant. -/
def same (a b : Moment) : Bool :=
  match a.zone, b.zone with
  | none, none => a == b
  | some here, some there =>
    (a.ticks : Int) - here.ahead * 1000000 == (b.ticks : Int) - there.ahead * 1000000
  | _, _ => false

def plain (m : Moment) : Text :=
  m.date.plain ++ ' ' :: Date.padded 2 m.hour ++ ':' :: Date.padded 2 m.minute ++
    ':' :: Date.padded 2 m.second ++ (if m.micro = 0 then [] else '.' :: Date.padded 6 m.micro) ++
    match m.zone with | some z => z.plain | none => []

end Moment
end Spacing
