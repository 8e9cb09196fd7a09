import Refit.Number.Rounding

/-!
Dates and times of day, checked against the calendar.
-/

namespace Refit

structure Date where
  year : Nat
  month : Nat
  day : Nat
  deriving DecidableEq, Repr

-- A time of day, with the offset from universal time in minutes where one is given.
structure Clock where
  hour : Nat
  minute : Nat
  second : Nat
  micro : Nat
  offset : Option Int
  deriving DecidableEq, Repr

-- The parts of a date or a time that can be out of range.
inductive CalendarFlaw where
  | year (n : Nat)
  | month
  | day
  | hour
  | minute
  | second
  | offset (minutes : Int)
  deriving DecidableEq, Repr

namespace Date

def isLeap (year : Nat) : Bool :=
  year % 4 == 0 && (year % 100 != 0 || year % 400 == 0)

def daysIn (year month : Nat) : Nat :=
  if month == 2 then (if isLeap year then 29 else 28)
  else if month == 4 || month == 6 || month == 9 || month == 11 then 30
  else 31

def check (d : Date) : Except CalendarFlaw Date :=
  if d.year < 1 || 9999 < d.year then .error (.year d.year)
  else if d.month < 1 || 12 < d.month then .error .month
  else if d.day < 1 || daysIn d.year d.month < d.day then .error .day
  else .ok d

-- The days from the first of January of the year 1 on.
def dayNumber (d : Date) : Nat :=
  let years := d.year - 1
  let months := (List.range (d.month - 1)).foldl (fun n m => n + daysIn d.year (m + 1)) 0
  years * 365 + years / 4 - years / 100 + years / 400 + months + d.day

def text (d : Date) : String :=
  let two (n : Nat) := Number.padLeft 2 '0' (toString n)
  Number.padLeft 4 '0' (toString d.year) ++ "-" ++ two d.month ++ "-" ++ two d.day

end Date

namespace Clock

def minutesPerDay : Int := 1440

def check (c : Clock) : Except CalendarFlaw Clock :=
  if 23 < c.hour then .error .hour
  else if 59 < c.minute then .error .minute
  else if 59 < c.second then .error .second
  else match c.offset with
    | some o => if o.natAbs < minutesPerDay.natAbs then .ok c else .error (.offset o)
    | none => .ok c

def two (n : Nat) : String :=
  Number.padLeft 2 '0' (toString n)

def offsetText (o : Int) : String :=
  (if o < 0 then "-" else "+") ++ two (o.natAbs / 60) ++ ":" ++ two (o.natAbs % 60)

-- The fraction of a second is written with six places, or not at all.
def text (c : Clock) : String :=
  two c.hour ++ ":" ++ two c.minute ++ ":" ++ two c.second
    ++ (if c.micro == 0 then "" else "." ++ Number.padLeft 6 '0' (toString c.micro))
    ++ (c.offset.map offsetText).getD ""

end Clock

-- Whether two dates with times of day name one moment. With offsets the universal times count, and
-- a time with an offset is none without.
def Moment.same (d : Date) (c : Clock) (d' : Date) (c' : Clock) : Bool :=
  match c.offset, c'.offset with
  | some o, some o' =>
    let minutes (d : Date) (c : Clock) (o : Int) : Int :=
      Int.ofNat ((d.dayNumber * 24 + c.hour) * 60 + c.minute) - o
    minutes d c o == minutes d' c' o' && c.second == c'.second && c.micro == c'.micro
  | none, none => d == d' && c == c'
  | _, _ => false

-- A length of time in whole days and the minutes left over, which are never negative.
def spanText (minutes : Int) : String :=
  let days := Int.fdiv minutes Clock.minutesPerDay
  let seconds := Int.fmod minutes Clock.minutesPerDay * 60
  let parts :=
    (if days == 0 then [] else ["days=" ++ toString days])
      ++ (if seconds == 0 then [] else ["seconds=" ++ toString seconds])
  let inner := if parts.isEmpty then "0" else ", ".intercalate parts
  "datetime.timedelta(" ++ inner ++ ")"

def CalendarFlaw.message : CalendarFlaw → String
  | year n => "year " ++ toString n ++ " is out of range"
  | month => "month must be in 1..12"
  | day => "day is out of range for month"
  | hour => "hour must be in 0..23"
  | minute => "minute must be in 0..59"
  | second => "second must be in 0..59"
  | offset m =>
    "offset must be a timedelta strictly between -timedelta(hours=24) and timedelta(hours=24), not "
      ++ spanText m ++ "."

end Refit
