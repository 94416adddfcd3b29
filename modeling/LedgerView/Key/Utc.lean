import LedgerView.Key.Timestamp

/-
  The calendar form of a timestamp, in UTC.

  Days are turned into a Gregorian date by counting whole
  cycles of 400, 100, 4 and 1 years from the first of March of
  year zero, so that a leap day is the last day of its cycle.

  Key definitions include:
    * `CalendarDate`
    * `CalendarDate.ofDays`
    * `Timestamp.hasCalendarForm`
    * `Timestamp.toUtcString`
-/

namespace LedgerView

------------------------------------------------------------
-- Dates
------------------------------------------------------------

/- A day of the Gregorian calendar. -/
structure CalendarDate where
  year : Nat
  month : Nat
  day : Nat
deriving Repr, DecidableEq

namespace CalendarDate

/- Days from 0000-03-01 to 1970-01-01. -/
def epochDay : Nat := 719468

/- The date a number of days after 1970-01-01. -/
def ofDays
    (days : Nat) : CalendarDate :=
  let shifted := days + epochDay
  let era := shifted / 146097
  let dayOfEra := shifted % 146097
  let yearOfEra :=
    (dayOfEra - dayOfEra / 1460 + dayOfEra / 36524 -
      dayOfEra / 146096) / 365
  let dayOfYear :=
    dayOfEra -
      (365 * yearOfEra + yearOfEra / 4 - yearOfEra / 100)
  let marchMonth := (5 * dayOfYear + 2) / 153
  let month :=
    if marchMonth < 10 then marchMonth + 3 else marchMonth - 9
  { year :=
      yearOfEra + era * 400 + (if month ≤ 2 then 1 else 0)
    month := month
    day := dayOfYear - (153 * marchMonth + 2) / 5 + 1 }

end CalendarDate

------------------------------------------------------------
-- Text
------------------------------------------------------------

namespace Timestamp

/- The last second of the last year that the calendar covers. -/
def lastCalendarSecond : Nat := 8210266876799

/-
  Nanoseconds fill one second, or two in the last second of a
  minute, which then is a leap second.
-/
def hasCalendarForm
    (t : Timestamp) : Bool :=
  t.seconds.toNat ≤ lastCalendarSecond &&
    (t.nanos.toNat < 1000000000 ||
      (t.nanos.toNat < 2000000000 && t.seconds.toNat % 60 == 59))

/- A number with zeros in front up to a width. -/
def padded
    (width n : Nat) : String :=
  String.ofList (Text.padLeft width (Text.decimal n))

/- Four digits, and a plus sign when four are too few. -/
def yearText
    (year : Nat) : String :=
  (if year > 9999 then "+" else "") ++ padded 4 year

/-
  Date and time to the millisecond, later digits cut off.  A
  timestamp outside the calendar is shown as it is written.
-/
def toUtcString
    (t : Timestamp) : String :=
  if t.hasCalendarForm then
    let seconds := t.seconds.toNat
    let nanos := t.nanos.toNat
    let date := CalendarDate.ofDays (seconds / 86400)
    let inDay := seconds % 86400
    yearText date.year ++ "-" ++ padded 2 date.month ++ "-" ++
      padded 2 date.day ++ " " ++ padded 2 (inDay / 3600) ++
      ":" ++ padded 2 (inDay / 60 % 60) ++ ":" ++
      padded 2 (inDay % 60 + nanos / 1000000000) ++ "." ++
      padded 3 (nanos % 1000000000 / 1000000) ++ " UTC"
  else
    t.toString

end Timestamp

end LedgerView
