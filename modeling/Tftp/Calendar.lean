import Tftp.Number.Shortest

/-!
# Days and times

A day of the calendar, and a time of a day with its offset from universal time, if it has one.

* `Date.ordinal` — the days of the calendar in a row;
* `Moment.same` — times with an offset are the same when they are the same instant;
* `Date.literal`, `Moment.literal` — days and times as they are written in messages;
* `Date.text`, `Moment.text` — days and times in digits.
-/

namespace Tftp

/-- A day of the calendar. -/
structure Date where
  year : Nat
  month : Nat
  day : Nat
  deriving DecidableEq, Repr, Inhabited

/-- A time of a day, maybe with its offset from universal time in seconds. -/
structure Moment where
  date : Date
  hour : Nat
  minute : Nat
  second : Nat
  microsecond : Nat
  offset : Option Int
  deriving DecidableEq, Repr, Inhabited

namespace Date

/-- The number of days of a month. -/
def daysOfMonth (year month : Nat) : Nat :=
  if month = 2 then
    if year % 4 = 0 ∧ (year % 100 ≠ 0 ∨ year % 400 = 0) then 29 else 28
  else if month = 4 ∨ month = 6 ∨ month = 9 ∨ month = 11 then 30
  else 31

/-- The number of a day, counted from the first day of the year 1. -/
def ordinal (d : Date) : Nat :=
  let years := d.year - 1
  let days := 365 * years + years / 4 - years / 100 + years / 400 + d.day
  (List.range (d.month - 1)).foldl (fun days m => days + daysOfMonth d.year (m + 1)) days

/-- The literal of a day. -/
def literal (d : Date) : String :=
  "datetime.date(" ++ ", ".intercalate ([d.year, d.month, d.day].map toString) ++ ")"

/-- A number in decimal digits, filled with zeros to a width. -/
def padded (width n : Nat) : String :=
  Binary64.padded width n

/-- The day in digits, with dashes. -/
def text (d : Date) : String :=
  padded 4 d.year ++ "-" ++ padded 2 d.month ++ "-" ++ padded 2 d.day

example : ordinal ⟨2001, 3, 1⟩ = ordinal ⟨2001, 2, 28⟩ + 1 := by decide +kernel

example : ordinal ⟨2001, 1, 1⟩ = ordinal ⟨2000, 12, 31⟩ + 1 := by decide +kernel

end Date

namespace Moment

/-- The seconds up to a time by its own clock, counted through the days of the calendar. -/
def seconds (m : Moment) : Int :=
  86400 * m.date.ordinal + 3600 * m.hour + 60 * m.minute + m.second

/-- Whether two times are the same instant, or show the same when neither has an offset. -/
def same (m n : Moment) : Bool :=
  match m.offset, n.offset with
  | some a, some b => m.seconds - a == n.seconds - b && m.microsecond == n.microsecond
  | none, none => m == n
  | _, _ => false

/-- A span of seconds, as days and the seconds left of a day. -/
def spanLiteral (seconds : Int) : String :=
  let days := seconds.fdiv 86400
  let rest := seconds.fmod 86400
  let parts := (if days = 0 then [] else ["days=" ++ toString days]) ++
    (if rest = 0 then [] else ["seconds=" ++ toString rest])
  "datetime.timedelta(" ++ (if parts.isEmpty then "0" else ", ".intercalate parts) ++ ")"

/-- The literal of an offset from universal time. -/
def offsetLiteral (seconds : Int) : String :=
  if seconds = 0 then "datetime.timezone.utc"
  else "datetime.timezone(" ++ spanLiteral seconds ++ ")"

/-- The literal of a time. Seconds and microseconds that are zero are left out from the end. -/
def literal (m : Moment) : String :=
  let tail := if m.microsecond ≠ 0 then [m.second, m.microsecond]
    else if m.second ≠ 0 then [m.second] else []
  let fields := [m.date.year, m.date.month, m.date.day, m.hour, m.minute] ++ tail
  let offset := match m.offset with
    | none => []
    | some s => ["tzinfo=" ++ offsetLiteral s]
  "datetime.datetime(" ++ ", ".intercalate (fields.map toString ++ offset) ++ ")"

/-- An offset from universal time in hours and minutes. -/
def offsetText (seconds : Int) : String :=
  let minutes := seconds.natAbs / 60
  (if seconds < 0 then "-" else "+") ++ Date.padded 2 (minutes / 60) ++ ":" ++
    Date.padded 2 (minutes % 60)

/-- The time in digits. -/
def text (m : Moment) : String :=
  m.date.text ++ " " ++ Date.padded 2 m.hour ++ ":" ++ Date.padded 2 m.minute ++ ":" ++
    Date.padded 2 m.second ++
    (if m.microsecond = 0 then "" else "." ++ Date.padded 6 m.microsecond) ++
    (m.offset.map offsetText).getD ""

end Moment

end Tftp
