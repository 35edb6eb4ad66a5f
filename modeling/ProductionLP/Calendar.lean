import ProductionLP.Text.Digit

/- Dates.

   A date is a day of the calendar, perhaps with a time of day and its distance from the
   meridian. Two times with known distances are the same when they name the same instant. -/
namespace ProductionLP

/-- A time of day; `part` counts millionths of a second. -/
structure TimeOfDay where
  hour : Nat
  minute : Nat
  second : Nat
  part : Nat
  deriving Repr, DecidableEq

/-- A date with, perhaps, a time of day and its distance from the meridian in minutes. -/
structure Date where
  year : Nat
  month : Nat
  day : Nat
  time : Option TimeOfDay
  offset : Option Int
  deriving Repr, DecidableEq

namespace Date

/-- A year with a day more. -/
def isLeapYear (y : Nat) : Bool := y % 4 == 0 && (y % 100 != 0 || y % 400 == 0)

/-- The number of days of a month. -/
def daysIn (year month : Nat) : Nat :=
  if month = 2 then if isLeapYear year then 29 else 28
  else if month = 4 ∨ month = 6 ∨ month = 9 ∨ month = 11 then 30 else 31

/-- The number of days before a year, counted from the first. -/
def daysBeforeYear (year : Nat) : Nat :=
  let y := year - 1
  365 * y + y / 4 - y / 100 + y / 400

/-- The number of days before a month within its year. -/
def daysBeforeMonth (year month : Nat) : Nat :=
  ((List.range (month - 1)).map fun k => daysIn year (k + 1)).foldl (· + ·) 0

/-- The minutes of a day. -/
def minutesOfDay : Int := 1440

/-- The minutes from the first day's beginning to the date, as a clock at the meridian shows
    them. -/
def minutes (d : Date) : Int :=
  let days := daysBeforeYear d.year + daysBeforeMonth d.year d.month + d.day
  match d.time with
  | none => days * minutesOfDay
  | some t => days * minutesOfDay + (60 * t.hour + t.minute : Nat) - d.offset.getD 0

/-- The second within the minute and its millionths. -/
def fineTime (d : Date) : Option (Nat × Nat) := d.time.map fun t => (t.second, t.part)

/-- The same day, or the same instant. -/
def same (a b : Date) : Bool :=
  a.offset.isSome == b.offset.isSome && a.minutes == b.minutes && a.fineTime == b.fineTime

/-- A duration in its quoted form. -/
def quotedMinutes (minutes : Int) : String :=
  let days := Int.fdiv minutes minutesOfDay
  let seconds := 60 * Int.fmod minutes minutesOfDay
  let parts := (if days = 0 then [] else ["days=" ++ toString days])
    ++ (if seconds = 0 then [] else ["seconds=" ++ toString seconds])
  "datetime.timedelta(" ++ (if parts.isEmpty then "0" else ", ".intercalate parts) ++ ")"

/-- A number in decimal with leading zeros. -/
def padded (width n : Nat) : String :=
  let ds := Text.decimal n
  String.ofList (List.replicate (width - ds.length) '0' ++ ds)

/-- The distance from the meridian as a text. -/
def offsetText : Option Int → String
  | none => ""
  | some o =>
    (if o < 0 then "-" else "+") ++ padded 2 (o.natAbs / 60) ++ ":" ++ padded 2 (o.natAbs % 60)

/-- A date as a text. -/
def shown (d : Date) : String :=
  let day := padded 4 d.year ++ "-" ++ padded 2 d.month ++ "-" ++ padded 2 d.day
  match d.time with
  | none => day
  | some t =>
    day ++ " " ++ padded 2 t.hour ++ ":" ++ padded 2 t.minute ++ ":" ++ padded 2 t.second
      ++ (if t.part = 0 then "" else "." ++ padded 6 t.part) ++ offsetText d.offset

/-- The distance from the meridian in the quoted form of a date. -/
def quotedOffset : Option Int → String
  | none => ""
  | some o =>
    ", tzinfo=datetime.timezone" ++ (if o = 0 then ".utc" else "(" ++ quotedMinutes o ++ ")")

/-- The numbers of a time that its quoted form lists: trailing zeros of seconds are left out. -/
def quotedTime (t : TimeOfDay) : List Nat :=
  if t.part ≠ 0 then [t.hour, t.minute, t.second, t.part]
  else if t.second ≠ 0 then [t.hour, t.minute, t.second]
  else [t.hour, t.minute]

/-- The quoted form of a date. -/
def quoted (d : Date) : String :=
  let day := [d.year, d.month, d.day]
  match d.time with
  | none => "datetime.date(" ++ ", ".intercalate (day.map toString) ++ ")"
  | some t =>
    "datetime.datetime(" ++ ", ".intercalate ((day ++ quotedTime t).map toString)
      ++ quotedOffset d.offset ++ ")"

/-- Why a date names no day or no time, if it does not. -/
def flaw? (d : Date) : Option String :=
  let offset := d.offset.getD 0
  if offset.natAbs ≥ minutesOfDay.toNat then
    some ("offset must be a timedelta strictly between -timedelta(hours=24) and "
      ++ "timedelta(hours=24), not " ++ quotedMinutes offset ++ ".")
  else if d.year = 0 then some "year 0 is out of range"
  else if d.month = 0 ∨ 12 < d.month then some "month must be in 1..12"
  else if d.day = 0 ∨ daysIn d.year d.month < d.day then some "day is out of range for month"
  else
    match d.time with
    | none => none
    | some t =>
      if 24 ≤ t.hour then some "hour must be in 0..23"
      else if 60 ≤ t.minute then some "minute must be in 0..59"
      else if 60 ≤ t.second then some "second must be in 0..59"
      else none

end Date

end ProductionLP
