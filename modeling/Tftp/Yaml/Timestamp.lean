import Tftp.Value
import Tftp.Yaml.Cursor
import Tftp.Yaml.Problem

/-!
# Days and times

A time is written as a day and maybe a time of that day, with an offset from universal time:
`2001-12-14`, `2001-12-14t21:59:43.10-05:00`, `2001-12-14 21:59:43.10 -5`.

* `Timestamp.read?` — the numbers of a text of this form;
* `Timestamp.toValue` — the day or the time that they name, if there is one.
-/

namespace Tftp.Yaml

/-- The time of a day as it is written. -/
structure ClockTime where
  hour : Nat
  minute : Nat
  second : Nat
  microsecond : Nat
  /-- the offset from universal time in seconds -/
  offset : Option Int
  deriving DecidableEq, Repr, Inhabited

/-- A time as it is written: its numbers may be out of range. -/
structure Timestamp where
  year : Nat
  month : Nat
  day : Nat
  time : Option ClockTime
  deriving DecidableEq, Repr, Inhabited

namespace Timestamp

/-- The number of a run of digits. -/
def ofDigits (ds : List Char) : Nat :=
  Numeral.ofDigits 10 (ds.map fun d => d.toNat - 48)

/-- A number of at least and at most so many digits, and the rest of the text. -/
def number? (least most : Nat) (cs : List Char) : Option (Nat × List Char) :=
  let ds := (cs.take most).takeWhile (·.isDigit)
  if least ≤ ds.length then some (ofDigits ds, cs.drop ds.length) else none

/-- The text after a given character. -/
def after? (x : Char) : List Char → Option (List Char)
  | [] => none
  | c :: cs => if c = x then some cs else none

/-- Whether a character is a space or a tab. -/
def isBlank (c : Char) : Bool := c == ' ' || c == '\t'

/-- The microseconds of a fraction of a second, of which six digits count. -/
def fraction? (cs : List Char) : Nat × List Char :=
  match cs with
  | '.' :: rest =>
    let ds := rest.takeWhile (·.isDigit)
    let six := ds.take 6
    (ofDigits six * Nat.pow 10 (6 - six.length), rest.drop ds.length)
  | _ => (0, cs)

/-- The minutes of an offset, which may be left out. -/
def offsetMinutes? : List Char → Option Nat
  | [] => some 0
  | ':' :: cs => do
    let (n, rest) ← number? 2 2 cs
    guard rest.isEmpty
    return n
  | _ => none

/-- An offset from universal time, which may be left out. -/
def offset? (cs : List Char) : Option (Option Int) :=
  match cs.dropWhile isBlank with
  | [] => if cs.isEmpty then some none else none
  | ['Z'] => some (some 0)
  | sign :: rest => do
    guard (sign = '-' ∨ sign = '+')
    let (hours, rest) ← number? 1 2 rest
    let minutes ← offsetMinutes? rest
    let seconds : Int := 3600 * hours + 60 * minutes
    return some (if sign = '-' then -seconds else seconds)

/-- The time of a day, up to the end of the text. -/
def clockTime? (cs : List Char) : Option ClockTime := do
  let (hour, cs) ← number? 1 2 cs
  let (minute, cs) ← number? 2 2 (← after? ':' cs)
  let (second, cs) ← number? 2 2 (← after? ':' cs)
  let (microsecond, cs) := fraction? cs
  let offset ← offset? cs
  return { hour, minute, second, microsecond, offset }

/-- The text after what stands between a day and a time. -/
def afterSeparator? : List Char → Option (List Char)
  | [] => none
  | c :: cs =>
    if c = 'T' ∨ c = 't' then some cs
    else if isBlank c then some (cs.dropWhile isBlank)
    else none

/-- The time that a line of text denotes. -/
def readLine? (cs : List Char) : Option Timestamp := do
  let (year, cs) ← number? 4 4 cs
  let (month, cs) ← number? 1 2 (← after? '-' cs)
  let (day, cs) ← number? 1 2 (← after? '-' cs)
  if cs.isEmpty then return { year, month, day, time := none }
  else
    let time ← clockTime? (← afterSeparator? cs)
    return { year, month, day, time := some time }

/-- The time that a text denotes, at whose end a line break may stand. -/
def read? (cs : List Char) : Option Timestamp := readLine? (withoutBreak cs)

/-- Whether there is such a day. -/
def isDay (t : Timestamp) : Bool :=
  1 ≤ t.year && 1 ≤ t.month && t.month ≤ 12 && 1 ≤ t.day &&
    t.day ≤ Date.daysOfMonth t.year t.month

/-- Whether there is such a time of a day. -/
def isTimeOfDay (t : ClockTime) : Bool :=
  t.hour < 24 && t.minute < 60 && t.second < 60 && t.offset.all (·.natAbs < 86400)

/-- The day or the time, if there is one. -/
def toValue (t : Timestamp) : Except Problem Value :=
  if !t.isDay then .error .badNumber
  else
    let date : Date := ⟨t.year, t.month, t.day⟩
    match t.time with
    | none => .ok (.date date)
    | some c =>
      if isTimeOfDay c then
        .ok (.moment ⟨date, c.hour, c.minute, c.second, c.microsecond, c.offset⟩)
      else .error .badNumber

example : read? "2001-12-14t21:59:43.1-05:00".toList =
    some ⟨2001, 12, 14, some ⟨21, 59, 43, 100000, some (-18000)⟩⟩ := by decide +kernel

example : read? "2001-12".toList = none ∧ (read? "1900-02-29".toList).map isDay = some false := by
  decide +kernel

end Timestamp

end Tftp.Yaml
