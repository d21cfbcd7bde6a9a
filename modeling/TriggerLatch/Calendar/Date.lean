/-!
# Dates

Dates of the Gregorian calendar, carried on to all years from -262143 to 262142.  `Date.next?` and
`Date.prev?` go from day to day.
-/

namespace TriggerLatch

/-- A year with a leap day. -/
def isLeapYear (y : Int) : Bool := y % 4 == 0 && (y % 100 != 0 || y % 400 == 0)

/-- How many days a month has. -/
def daysIn (year : Int) (month : Nat) : Nat :=
  if month = 2 then (if isLeapYear year then 29 else 28)
  else if month = 4 ∨ month = 6 ∨ month = 9 ∨ month = 11 then 30
  else 31

/-- The first year. -/
def firstYear : Int := -262143

/-- The last year. -/
def lastYear : Int := 262142

/-- A day of the calendar. -/
structure Date where
  year : Int
  month : Nat
  day : Nat
  year_mem : firstYear ≤ year ∧ year ≤ lastYear
  month_mem : 1 ≤ month ∧ month ≤ 12
  day_mem : 1 ≤ day ∧ day ≤ daysIn year month
  deriving DecidableEq, Repr

namespace Date

/-- The day with these numbers, if there is one. -/
def of? (year : Int) (month day : Nat) : Option Date :=
  if h : (firstYear ≤ year ∧ year ≤ lastYear) ∧ (1 ≤ month ∧ month ≤ 12) ∧
      (1 ≤ day ∧ day ≤ daysIn year month) then
    some ⟨year, month, day, h.1, h.2.1, h.2.2⟩
  else none

/-- The day after. -/
def next? (d : Date) : Option Date :=
  if d.day < daysIn d.year d.month then of? d.year d.month (d.day + 1)
  else if d.month < 12 then of? d.year (d.month + 1) 1
  else of? (d.year + 1) 1 1

/-- The day before. -/
def prev? (d : Date) : Option Date :=
  if 1 < d.day then of? d.year d.month (d.day - 1)
  else if 1 < d.month then of? d.year (d.month - 1) (daysIn d.year (d.month - 1))
  else of? (d.year - 1) 12 31

theorem of?_self (d : Date) : of? d.year d.month d.day = some d := by
  simp [of?, d.year_mem, d.month_mem, d.day_mem]

end Date

end TriggerLatch
