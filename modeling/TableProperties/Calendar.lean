import TableProperties.Integer

/-!
# Dates and times

Calendar dates, times of day and the two together, with an optional distance from universal time.
The constructors that check their arguments say which of them is out of range. A date and time has
two texts: the one it is stored as and the one by which it is shown inside a list.
-/

namespace TableProperties

open Integer

/-! ## Parts out of range -/

/-- A part of a date or time that is out of range. -/
inductive CalendarFault where
  | year (n : Nat)
  | month
  | day
  | hour
  | minute
  | second
  /-- The distance from universal time is a day or more, in minutes. -/
  | offset (minutes : Int)
  deriving DecidableEq, Repr

/-! ## Dates -/

/-- A date of the Gregorian calendar. -/
structure Date where
  year : Nat
  month : Nat
  day : Nat
  deriving DecidableEq, Repr

/-- Whether a year has a leap day. -/
def isLeapYear (year : Nat) : Bool :=
  year % 4 == 0 && (year % 100 != 0 || year % 400 == 0)

/-- The number of days of a month. -/
def daysInMonth (year month : Nat) : Nat :=
  if month = 2 then (if isLeapYear year then 29 else 28)
  else if month = 4 ∨ month = 6 ∨ month = 9 ∨ month = 11 then 30
  else 31

/-- The date of a year, month and day, if there is one. -/
def Date.of (year month day : Nat) : Except CalendarFault Date :=
  if year < 1 ∨ 9999 < year then .error (.year year)
  else if month < 1 ∨ 12 < month then .error .month
  else if day < 1 ∨ daysInMonth year month < day then .error .day
  else .ok ⟨year, month, day⟩

/-- A date as year, month and day. -/
def Date.text (d : Date) : List Char :=
  padded 4 d.year ++ '-' :: padded 2 d.month ++ '-' :: padded 2 d.day

/-- The number of days from the first day of year 1, which counts as day 1. -/
def Date.ordinal (d : Date) : Nat :=
  let y := d.year - 1
  let before := (List.range (d.month - 1)).foldl (fun n m ↦ n + daysInMonth d.year (m + 1)) 0
  y * 365 + y / 4 - y / 100 + y / 400 + before + d.day

/-! ## Times -/

/-- A time of day, to the microsecond. -/
structure Time where
  hour : Nat
  minute : Nat
  second : Nat
  microsecond : Nat
  deriving DecidableEq, Repr

/-- The time of an hour, minute and second, if there is one. -/
def Time.of (hour minute second microsecond : Nat) : Except CalendarFault Time :=
  if 23 < hour then .error .hour
  else if 59 < minute then .error .minute
  else if 59 < second then .error .second
  else .ok ⟨hour, minute, second, microsecond⟩

/-- A time as hour, minute and second; microseconds are written if there are any. -/
def Time.text (t : Time) : List Char :=
  padded 2 t.hour ++ ':' :: padded 2 t.minute ++ ':' :: padded 2 t.second ++
    (if t.microsecond = 0 then [] else '.' :: padded 6 t.microsecond)

/-! ## Distances -/

/-- A span of minutes as whole days and the seconds that remain, by which spans are shown. -/
def spanText (minutes : Int) : List Char :=
  let days := minutes.fdiv (24 * 60)
  let seconds := (minutes.fmod (24 * 60)) * 60
  let parts :=
    (if days = 0 then [] else ["days=".toList ++ decimal days]) ++
      (if seconds = 0 then [] else ["seconds=".toList ++ decimal seconds])
  let inner := if parts.isEmpty then ['0'] else List.intercalate [',', ' '] parts
  "datetime.timedelta(".toList ++ inner ++ [')']

/-- A distance from universal time as a signed hour and minute. -/
def offsetText (minutes : Int) : List Char :=
  (if minutes < 0 then '-' else '+') :: padded 2 (minutes.natAbs / 60) ++
    ':' :: padded 2 (minutes.natAbs % 60)

/-! ## Dates with times -/

/-- A date and time, with a distance from universal time in minutes if one is known. -/
structure DateTime where
  date : Date
  time : Time
  offset : Option Int
  deriving DecidableEq, Repr

/-- Checks a distance from universal time, which must be less than a day. -/
def checkOffset (minutes : Int) : Except CalendarFault Int :=
  if minutes.natAbs < 24 * 60 then .ok minutes else .error (.offset minutes)

/-- Whether the distance from universal time, if one is known, is less than a day. -/
def DateTime.hasOffsetInRange (t : DateTime) : Bool :=
  t.offset.all fun minutes ↦ (checkOffset minutes).isOk

/-- A date and time, the two parts separated by a space. -/
def DateTime.text (t : DateTime) : List Char :=
  t.date.text ++ ' ' :: t.time.text ++ (t.offset.map offsetText).getD []

/-- The instant in microseconds of universal time, for a known distance from it. -/
def DateTime.instant (t : DateTime) (offset : Int) : Int :=
  let minutes : Int := (t.date.ordinal * 24 + t.time.hour) * 60 + t.time.minute - offset
  (minutes * 60 + t.time.second) * 1000000 + t.time.microsecond

/-- Whether two of them are the same point in time, or agree in all parts if none is tied to
universal time. -/
def DateTime.Same (t u : DateTime) : Bool :=
  match t.offset, u.offset with
  | some a, some b => t.instant a == u.instant b
  | none, none => t.date == u.date && t.time == u.time
  | _, _ => false

/-! ## Shown inside lists -/

private def constructorCall (name : String) (arguments : List (List Char)) : List Char :=
  name.toList ++ '(' :: List.intercalate [',', ' '] arguments ++ [')']

/-- How a date is shown inside a list. -/
def Date.shown (d : Date) : List Char :=
  constructorCall "datetime.date" ([d.year, d.month, d.day].map fun (n : Nat) ↦ decimal n)

/-- The parts of a time that are shown: seconds and microseconds only up to the last that is not
zero. -/
def Time.shownParts (t : Time) : List Nat :=
  if t.microsecond ≠ 0 then [t.hour, t.minute, t.second, t.microsecond]
  else if t.second ≠ 0 then [t.hour, t.minute, t.second]
  else [t.hour, t.minute]

/-- How a time is shown inside a list. -/
def Time.shown (t : Time) : List Char :=
  constructorCall "datetime.time" (t.shownParts.map fun (n : Nat) ↦ decimal n)

/-- How a distance from universal time is shown inside a list. -/
def offsetShown (minutes : Int) : List Char :=
  if minutes = 0 then "datetime.timezone.utc".toList
  else "datetime.timezone(".toList ++ spanText minutes ++ [')']

/-- How a date and time is shown inside a list. -/
def DateTime.shown (t : DateTime) : List Char :=
  let parts := [t.date.year, t.date.month, t.date.day] ++ t.time.shownParts
  let zone := (t.offset.map fun m ↦ "tzinfo=".toList ++ offsetShown m).toList
  constructorCall "datetime.datetime" ((parts.map fun (n : Nat) ↦ decimal n) ++ zone)

/-! ## Messages -/

/-- The condition on the distance from universal time, as messages put it. -/
def offsetRangeMessage : String :=
  "offset must be a timedelta strictly between -timedelta(hours=24) and timedelta(hours=24)"

/-- The message for a part that is out of range. -/
def CalendarFault.message : CalendarFault → String
  | .year n => "year " ++ decimalText n ++ " is out of range"
  | .month => "month must be in 1..12"
  | .day => "day is out of range for month"
  | .hour => "hour must be in 0..23"
  | .minute => "minute must be in 0..59"
  | .second => "second must be in 0..59"
  | .offset minutes => offsetRangeMessage ++ ", not " ++ String.ofList (spanText minutes) ++ "."

end TableProperties
