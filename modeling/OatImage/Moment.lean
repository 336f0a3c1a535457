import OatImage.Text.Numeral

/-!
# Moments

A moment is a date of the calendar, a time of day, or both; both together may say how far the
local time is from universal time.
-/
namespace OatImage

structure Date where
  year : Nat
  month : Nat
  day : Nat
deriving DecidableEq, Repr

/-- A time of day, the last part in millionths of a second. -/
structure DayTime where
  hour : Nat
  minute : Nat
  second : Nat
  millionths : Nat := 0
deriving DecidableEq, Repr

inductive Moment
  | date (d : Date)
  | time (t : DayTime)
  /-- A date and a time, with the minutes by which the local time is ahead if that is known. -/
  | both (d : Date) (t : DayTime) (ahead : Option Int)
deriving DecidableEq, Repr

namespace Date

def isLeapYear (year : Nat) : Bool :=
  (year % 4 = 0 && year % 100 ≠ 0) || year % 400 = 0

def daysIn (year month : Nat) : Nat :=
  if month = 2 then (if isLeapYear year then 29 else 28)
  else if month = 4 ∨ month = 6 ∨ month = 9 ∨ month = 11 then 30
  else 31

def isValid (d : Date) : Bool :=
  1 ≤ d.year && 1 ≤ d.month && d.month ≤ 12 && 1 ≤ d.day && d.day ≤ daysIn d.year d.month

end Date

def DayTime.isValid (t : DayTime) : Bool := t.hour < 24 && t.minute < 60 && t.second < 60

namespace Moment

def pad (width n : Nat) : String :=
  String.ofList (Numeral.zeroPadded width (Nat.toDigits 10 n))

def dateText (d : Date) : String := pad 4 d.year ++ "-" ++ pad 2 d.month ++ "-" ++ pad 2 d.day

def timeText (t : DayTime) : String :=
  pad 2 t.hour ++ ":" ++ pad 2 t.minute ++ ":" ++ pad 2 t.second ++
    (if t.millionths = 0 then "" else "." ++ pad 6 t.millionths)

def aheadText (minutes : Int) : String :=
  (if minutes < 0 then "-" else "+") ++ pad 2 (minutes.natAbs / 60) ++ ":" ++
    pad 2 (minutes.natAbs % 60)

/-- The moment in ISO form, with a text between date and time. -/
def text (between : String) : Moment → String
  | .date d => dateText d
  | .time t => timeText t
  | .both d t ahead => dateText d ++ between ++ timeText t ++ (ahead.elim "" aheadText)

def kindName : Moment → String
  | .date _ => "datetime.date"
  | .time _ => "datetime.time"
  | .both _ _ _ => "datetime.datetime"

def dateParts (d : Date) : List Nat := [d.year, d.month, d.day]

/-- The parts of a time; seconds are left out if they are zero. -/
def timeParts (t : DayTime) : List Nat :=
  [t.hour, t.minute] ++
    if t.millionths ≠ 0 then [t.second, t.millionths]
    else if t.second ≠ 0 then [t.second] else []

/-- A distance from universal time, in whole days and the seconds left. -/
def zone (minutes : Int) : String :=
  if minutes = 0 then "datetime.timezone.utc"
  else
    let days := minutes / 1440
    "datetime.timezone(datetime.timedelta(" ++
      (if days = 0 then "" else "days=" ++ Numeral.decimal days ++ ", ") ++
      "seconds=" ++ Numeral.decimal (minutes % 1440 * 60) ++ "))"

def quoted (m : Moment) : String :=
  let parts : List Nat := match m with
    | .date d => dateParts d
    | .time t => timeParts t
    | .both d t _ => dateParts d ++ timeParts t
  let zones : List String := match m with
    | .both _ _ (some ahead) => ["tzinfo=" ++ zone ahead]
    | _ => []
  m.kindName ++ "(" ++ ", ".intercalate (parts.map (Numeral.natText 10) ++ zones) ++ ")"

end Moment

end OatImage
