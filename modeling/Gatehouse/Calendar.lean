import Gatehouse.Text.Numeral

/-!
# Calendar dates

Days since 1970-01-01 in the proleptic Gregorian calendar, and the short text of the day of a
timestamp.
-/

namespace Gatehouse

structure Date where
  year : Int
  /-- One is January. -/
  month : Nat
  day : Nat
  deriving DecidableEq, Repr

namespace Date

/-- Counted from 1 March of year 0, an era of 400 years has 146097 days, and every fifth of the
153 days of five months starts a month. -/
def ofDays (days : Int) : Date :=
  let shifted := days + 719468
  let era := shifted / 146097
  let dayOfEra := (shifted % 146097).toNat
  let yearOfEra := (dayOfEra - dayOfEra / 1460 + dayOfEra / 36524 - dayOfEra / 146096) / 365
  let dayOfYear := dayOfEra - (365 * yearOfEra + yearOfEra / 4 - yearOfEra / 100)
  let fromMarch := (5 * dayOfYear + 2) / 153
  let month := if fromMarch < 10 then fromMarch + 3 else fromMarch - 9
  let year := era * 400 + yearOfEra + (if month ≤ 2 then 1 else 0)
  { year, month, day := dayOfYear - (153 * fromMarch + 2) / 5 + 1 }

def monthName (month : Nat) : String :=
  ["Jan", "Feb", "Mar", "Apr", "May", "Jun", "Jul", "Aug", "Sep", "Oct", "Nov", "Dec"].getD
    (month - 1) ""

/-- Years of four digits stand as they are, others carry a sign. -/
def yearText (year : Int) : String :=
  if 0 ≤ year ∧ year ≤ 9999 then Numeral.decimal 4 year.toNat
  else if year < 0 then "-" ++ Numeral.decimal 4 year.natAbs
  else "+" ++ Numeral.decimal 4 year.toNat

def short (date : Date) : String :=
  Numeral.decimal 2 date.day ++ " " ++ monthName date.month ++ " " ++ yearText date.year

/-- The days that have a date, in days since 1970-01-01: from 1 January of the year -262143 to
31 December of the year 262142. -/
def firstDay : Int := -96465292

def lastDay : Int := 95026236

/-- The day of a timestamp in seconds. Times outside the calendar are "never". -/
def shortOfTimestamp (seconds : Int) : String :=
  let days := seconds / 86400
  if firstDay ≤ days ∧ days ≤ lastDay then (ofDays days).short else "never"

end Date

end Gatehouse
