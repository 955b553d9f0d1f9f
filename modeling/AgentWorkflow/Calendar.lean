import AgentWorkflow.Text

/-!
# The calendar

Instants are counted in seconds from the first day of 1970 and shown as days of
the calendar with a time of day. The calendar repeats itself every four hundred
years, and a year that is counted from March has its leap day at the end; so
the day is found by division alone.
-/

namespace AgentWorkflow

/-- A day of the calendar, of any year. -/
structure CalendarDay where
  /-- The year. -/
  year : Int
  /-- The month, from one. -/
  month : Nat
  /-- The day of the month, from one. -/
  day : Nat
  deriving DecidableEq

namespace CalendarDay

/-- The number of days in four hundred years. -/
def daysInCycle : Int := 146097

/-- How many days the first of March of the year zero lies before the first of
January 1970. -/
def daysBefore1970 : Int := 719468

/-- **The day that lies so many days after the first of January 1970.** -/
def ofDays (days : Int) : CalendarDay :=
  let n := days + daysBefore1970
  let inCycle := (n % daysInCycle).toNat
  let year := (inCycle - inCycle / 1460 + inCycle / 36524 - inCycle / 146096) / 365
  let inYear := inCycle - (365 * year + year / 4 - year / 100)
  -- From March on, the months are 31, 30, 31, 30 and 31 days long, over and over.
  let month := (5 * inYear + 2) / 153
  { year := n / daysInCycle * 400 + year + (if month < 10 then 0 else 1)
    month := if month < 10 then month + 3 else month - 9
    day := inYear - (153 * month + 2) / 5 + 1 }

/-- A year of at least four digits, with a sign if four do not tell. -/
def yearText (year : Int) : String :=
  let ds := toString year.natAbs
  let digits := Text.repeated (4 - ds.length) '0' ++ ds
  if year < 0 then "-" ++ digits else if 9999 < year then "+" ++ digits else digits

end CalendarDay

/-- A number of two digits at least. -/
def Text.two (n : Nat) : String := Text.repeated (2 - (toString n).length) '0' ++ toString n

/-- **An instant in words**, if it lies in the years that are shown. -/
def instantText? (seconds : Int) : Option String :=
  let day := CalendarDay.ofDays (seconds / 86400)
  let time := (seconds % 86400).toNat
  if -262143 ≤ day.year ∧ day.year ≤ 262142 then
    some (CalendarDay.yearText day.year ++ "-" ++ Text.two day.month ++ "-" ++ Text.two day.day
      ++ " " ++ Text.two (time / 3600) ++ ":" ++ Text.two (time / 60 % 60) ++ ":"
      ++ Text.two (time % 60))
  else none

end AgentWorkflow
