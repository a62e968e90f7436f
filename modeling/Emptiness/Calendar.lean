import Emptiness.Number.Numeral

/-!
# Dates and times

Calendar values that an options file can hold: a date, a time of day, or both with an optional distance from
universal time.
-/

namespace Emptiness.Calendar

/-- A day of the proleptic Gregorian calendar. -/
structure Date where
  year : Nat
  month : Nat
  day : Nat
  deriving DecidableEq

/-- A time of day. -/
structure Clock where
  hour : Nat
  minute : Nat
  second : Nat
  microsecond : Nat
  deriving DecidableEq

/-- A date, a time of day, or a date with a time and perhaps its distance from universal time in minutes. -/
inductive Moment where
  | date (d : Date)
  | time (t : Clock)
  | dateTime (d : Date) (t : Clock) (offset : Option Int)
  deriving DecidableEq

/-- A year with a 29th of February. -/
def isLeap (year : Nat) : Bool :=
  year % 4 == 0 && (year % 100 != 0 || year % 400 == 0)

/-- The number of days of a month. -/
def daysIn (year month : Nat) : Nat :=
  if month = 2 then (if isLeap year then 29 else 28)
  else if month = 4 || month = 6 || month = 9 || month = 11 then 30
  else 31

/-- A day that the calendar has. -/
def Date.isValid (d : Date) : Bool :=
  1 ≤ d.year && d.year ≤ 9999 && 1 ≤ d.month && d.month ≤ 12 && 1 ≤ d.day && d.day ≤ daysIn d.year d.month

/-- A number with zeros in front up to a width. -/
def padded (width n : Nat) : List Char :=
  let shown := Number.digits n
  List.replicate (width - shown.length) '0' ++ shown

/-- Numbers with a comma and a space between them. -/
def listed (parts : List Nat) : String :=
  ", ".intercalate (parts.map fun n => String.ofList (Number.digits n))

/-- Year, month and day with hyphens. -/
def Date.text (d : Date) : List Char :=
  padded 4 d.year ++ '-' :: padded 2 d.month ++ '-' :: padded 2 d.day

/-- Hours, minutes and seconds with colons, and microseconds if there are any. -/
def Clock.text (t : Clock) : List Char :=
  padded 2 t.hour ++ ':' :: padded 2 t.minute ++ ':' :: padded 2 t.second ++
    (if t.microsecond = 0 then [] else '.' :: padded 6 t.microsecond)

/-- The distance from universal time as hours and minutes. -/
def offsetText (offset : Int) : List Char :=
  (if offset < 0 then '-' else '+') :: padded 2 (offset.natAbs / 60) ++ ':' :: padded 2 (offset.natAbs % 60)

/-- The text of a moment; date and time are separated by a blank. -/
def Moment.text : Moment → String
  | .date d => String.ofList d.text
  | .time t => String.ofList t.text
  | .dateTime d t offset => String.ofList (d.text ++ ' ' :: t.text ++ (offset.map offsetText).getD [])

/-- The fields of a time of day that its literal shows. -/
def Clock.fields (t : Clock) : List Nat :=
  if t.microsecond ≠ 0 then [t.hour, t.minute, t.second, t.microsecond]
  else if t.second ≠ 0 then [t.hour, t.minute, t.second]
  else [t.hour, t.minute]

/-- The literal of a distance from universal time. -/
def offsetLiteral (offset : Int) : String :=
  if offset = 0 then "datetime.timezone.utc"
  else
    let span :=
      if offset < 0 then "days=-1, seconds=" ++ listed [((offset + 1440) * 60).toNat]
      else "seconds=" ++ listed [(offset * 60).toNat]
    "datetime.timezone(datetime.timedelta(" ++ span ++ "))"

/-- The literal of a moment. -/
def Moment.literal : Moment → String
  | .date d => "datetime.date(" ++ listed [d.year, d.month, d.day] ++ ")"
  | .time t => "datetime.time(" ++ listed t.fields ++ ")"
  | .dateTime d t offset =>
    let zone := match offset with
      | none => ""
      | some minutes => ", tzinfo=" ++ offsetLiteral minutes
    "datetime.datetime(" ++ listed ([d.year, d.month, d.day] ++ t.fields) ++ zone ++ ")"

/-- The name of the kind of a moment. -/
def Moment.typeName : Moment → String
  | .date _ => "date"
  | .time _ => "time"
  | .dateTime .. => "datetime"

end Emptiness.Calendar
