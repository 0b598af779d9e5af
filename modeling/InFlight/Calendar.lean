/-!
# Calendar text of a time stamp

Seconds since 1970-01-01 00:00:00 UTC, written as a date and a time of day in the proleptic
Gregorian calendar.  Years from 0 to 9999 have four digits; other years carry a sign and at
least four digits.  Time stamps outside the supported range are written as the number itself.

## Main definitions

* `InFlight.Calendar.Date`, `Calendar.ofDays` — the date of a day counted from 1970-01-01.
* `InFlight.Calendar.format` — the text of a time stamp.

## Design

Days are counted from 1 March of year 0, in cycles of 400 years; leap days then come last in
their year, and month and day follow from the day of the year alone.
-/

set_option relaxedAutoImplicit false
set_option autoImplicit false

namespace InFlight

namespace Calendar

/-- A calendar date. -/
structure Date where
  year : Int
  month : Nat
  day : Nat
deriving DecidableEq, Repr

/-- Days from 1 March of year 0 to 1 January 1970. -/
def epochDay : Int := 719468

/-- Days in a cycle of 400 years. -/
def cycleDays : Int := 146097

/-- The date of a day, counted from 1970-01-01. -/
def ofDays (days : Int) : Date :=
  let n := days + epochDay
  let cycle := n / cycleDays
  let dayOfCycle := (n % cycleDays).toNat
  let yearOfCycle :=
    (dayOfCycle - dayOfCycle / 1460 + dayOfCycle / 36524 - dayOfCycle / 146096) / 365
  let dayOfYear := dayOfCycle - (365 * yearOfCycle + yearOfCycle / 4 - yearOfCycle / 100)
  let monthFromMarch := (5 * dayOfYear + 2) / 153
  let day := dayOfYear - (153 * monthFromMarch + 2) / 5 + 1
  let month := if monthFromMarch < 10 then monthFromMarch + 3 else monthFromMarch - 9
  let year := 400 * cycle + yearOfCycle
  { year := if month ≤ 2 then year + 1 else year, month, day }

/-- A number with at least `width` digits. -/
def digits (width n : Nat) : String :=
  let s := toString n
  String.ofList (List.replicate (width - s.length) '0') ++ s

/-- The text of a year. -/
def yearText (year : Int) : String :=
  if 0 ≤ year ∧ year ≤ 9999 then digits 4 year.toNat
  else (if year < 0 then "-" else "+") ++ digits 4 year.natAbs

/-- The first and the last time stamp that have a date. -/
def firstSecond : Int := -8334601228800

@[inherit_doc firstSecond]
def lastSecond : Int := 8210266876799

/-- The text of a time stamp. -/
def format (seconds : Int) : String :=
  if seconds < firstSecond ∨ lastSecond < seconds then toString seconds
  else
    let date := ofDays (seconds / 86400)
    let second := (seconds % 86400).toNat
    yearText date.year ++ "-" ++ digits 2 date.month ++ "-" ++ digits 2 date.day ++ " " ++
      digits 2 (second / 3600) ++ ":" ++ digits 2 (second / 60 % 60) ++ ":" ++
      digits 2 (second % 60)

end Calendar

end InFlight
