import ClientGen.Text.Quoted

/-!
# Dates and points in time

A document may hold dates and timestamps as values of their own. This module
has their two types, which days and times exist, when two timestamps name the
same instant, and how both are written.
-/

namespace ClientGen

/-- A day of the calendar. -/
structure Date where
  year : Nat
  month : Nat
  day : Nat
  deriving DecidableEq, Repr, Inhabited

namespace Date

/-- Whether a year has a 29th of February. -/
def isLeap (year : Nat) : Bool :=
  year % 4 == 0 && (year % 100 != 0 || year % 400 == 0)

/-- How many days a month has. -/
def daysIn (year month : Nat) : Nat :=
  if month = 2 then (if isLeap year then 29 else 28)
  else if month = 4 || month = 6 || month = 9 || month = 11 then 30
  else 31

/-- The date of three numbers, if it exists. -/
def ofNumbers? (year month day : Nat) : Option Date :=
  if 1 ≤ year && year ≤ 9999 && 1 ≤ month && month ≤ 12 && 1 ≤ day &&
      day ≤ daysIn year month then
    some ⟨year, month, day⟩
  else none

/-- How many days lie before the date, from the first day of year 1 on. -/
def ordinal (d : Date) : Nat :=
  let y := d.year - 1
  let months := (List.range (d.month - 1)).foldl
    (fun days m => days + daysIn d.year (m + 1)) 0
  365 * y + y / 4 - y / 100 + y / 400 + months + (d.day - 1)

end Date

/-- A time of day on a date. The offset to universal time, if there is one, is
in minutes. -/
structure Timestamp where
  date : Date
  hour : Nat
  minute : Nat
  second : Nat
  microsecond : Nat
  offset : Option Int
  deriving DecidableEq, Repr, Inhabited

namespace Timestamp

/-- The timestamp of its parts, if there is such a time of day and the offset
is shorter than a day. -/
def ofParts? (date : Date) (hour minute second microsecond : Nat)
    (offset : Option Int) : Option Timestamp :=
  let offsetFits := match offset with
    | some o => o.natAbs < 24 * 60
    | none => true
  if hour < 24 && minute < 60 && second < 60 && microsecond < 1000000 &&
      offsetFits then
    some ⟨date, hour, minute, second, microsecond, offset⟩
  else none

/-- The microseconds from the start of year 1 to the timestamp, in its own
local time. -/
def localMicroseconds (t : Timestamp) : Int :=
  (((t.date.ordinal * 24 + t.hour) * 60 + t.minute) * 60 + t.second) * 1000000
    + t.microsecond

/-- Whether two timestamps are equal: both without an offset and of the same
parts, or both with one and at the same instant. -/
def same (t u : Timestamp) : Bool :=
  match t.offset, u.offset with
  | none, none => t.localMicroseconds == u.localMicroseconds
  | some o, some p =>
    t.localMicroseconds - o * 60000000 == u.localMicroseconds - p * 60000000
  | _, _ => false

end Timestamp

/-- A number with leading zeros, of at least `width` digits. -/
def padded (width n : Nat) : String :=
  let digits := Nat.toDigits 10 n
  String.ofList (List.replicate (width - digits.length) '0' ++ digits)

/-- A date as year, month and day with dashes. -/
def Date.text (d : Date) : String :=
  padded 4 d.year ++ "-" ++ padded 2 d.month ++ "-" ++ padded 2 d.day

/-- An offset to universal time as signed hours and minutes. -/
def offsetText (minutes : Int) : String :=
  (if minutes < 0 then "-" else "+") ++ padded 2 (minutes.natAbs / 60) ++ ":" ++
    padded 2 (minutes.natAbs % 60)

/-- A timestamp as date and time; a fraction is written only where there is
one. -/
def Timestamp.text (t : Timestamp) : String :=
  t.date.text ++ " " ++ padded 2 t.hour ++ ":" ++ padded 2 t.minute ++ ":" ++
    padded 2 t.second ++
    (if t.microsecond = 0 then "" else "." ++ padded 6 t.microsecond) ++
    (match t.offset with
      | none => ""
      | some o => offsetText o)

/-- The constructor form of a date, used inside printed lists and mappings. -/
def Date.constructorText (d : Date) : String :=
  "datetime.date(" ++ toString d.year ++ ", " ++ toString d.month ++ ", " ++
    toString d.day ++ ")"

/-- The constructor form of an offset: a negative one counts from a day
before. -/
def offsetConstructorText (minutes : Int) : String :=
  if minutes = 0 then "datetime.timezone.utc"
  else
    let delta :=
      if 0 ≤ minutes then "seconds=" ++ toString (minutes.toNat * 60)
      else
        "days=-1, seconds=" ++ toString (24 * 3600 - minutes.natAbs * 60)
    "datetime.timezone(datetime.timedelta(" ++ delta ++ "))"

/-- The constructor form of a timestamp: trailing zero seconds and
microseconds are left out. -/
def Timestamp.constructorText (t : Timestamp) : String :=
  let parts :=
    [t.date.year, t.date.month, t.date.day, t.hour, t.minute] ++
      (if t.microsecond != 0 then [t.second, t.microsecond]
       else if t.second != 0 then [t.second] else [])
  "datetime.datetime(" ++ ", ".intercalate (parts.map toString) ++
    (match t.offset with
      | none => ""
      | some o => ", tzinfo=" ++ offsetConstructorText o) ++ ")"

end ClientGen
