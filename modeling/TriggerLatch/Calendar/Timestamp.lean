import TriggerLatch.Calendar.Date
import TriggerLatch.Decimal.Natural

/-!
# Points in time

A timestamp is a date and a time of day in UTC, to the nanosecond; second 60 is a leap second.
`Timestamp.display` writes it with a `Z` behind it and as few of 0, 3, 6 or 9 digits behind the
point as the nanoseconds need.
-/

namespace TriggerLatch

/-- A point in time, in UTC. -/
structure Timestamp where
  date : Date
  hour : Nat
  minute : Nat
  second : Nat
  nanosecond : Nat
  hour_lt : hour < 24
  minute_lt : minute < 60
  second_le : second ≤ 60
  nanosecond_lt : nanosecond < 1000000000
  deriving DecidableEq, Repr

namespace Timestamp

/-- The year: four digits, and with a sign where it is negative or needs more. -/
def displayYear (y : Int) : Text :=
  if 0 ≤ y ∧ y ≤ 9999 then Decimal.padded 4 y.natAbs
  else (if y < 0 then '-' else '+') :: Decimal.padded 4 y.natAbs

/-- The fraction of a second. -/
def displayFraction (n : Nat) : Text :=
  if n = 0 then []
  else if n % 1000000 = 0 then '.' :: Decimal.padded 3 (n / 1000000)
  else if n % 1000 = 0 then '.' :: Decimal.padded 6 (n / 1000)
  else '.' :: Decimal.padded 9 n

/-- Date and time with a `T` between them. -/
def display (t : Timestamp) : Text :=
  displayYear t.date.year ++ '-' :: Decimal.padded 2 t.date.month ++
    '-' :: Decimal.padded 2 t.date.day ++ 'T' :: Decimal.padded 2 t.hour ++
    ':' :: Decimal.padded 2 t.minute ++ ':' :: Decimal.padded 2 t.second ++
    displayFraction t.nanosecond ++ ['Z']

/-- The point in time at which clocks `offset` minutes ahead of UTC show a date and a time; the
offset is less than a day. -/
def ofLocal? (date : Date) (hour minute second nanosecond : Nat) (offset : Int) :
    Option Timestamp := do
  let total : Int := 60 * hour + minute - offset
  let date ← if total < 0 then date.prev? else if 1440 ≤ total then date.next? else some date
  let m := (total % 1440).toNat
  if h : (m / 60 < 24 ∧ m % 60 < 60) ∧ second ≤ 60 ∧ nanosecond < 1000000000 then
    some ⟨date, m / 60, m % 60, second, nanosecond, h.1.1, h.1.2, h.2.1, h.2.2⟩
  else none

end Timestamp

end TriggerLatch
