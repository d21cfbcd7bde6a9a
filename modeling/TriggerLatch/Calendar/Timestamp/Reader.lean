import TriggerLatch.Calendar.Timestamp

/-!
# Reading points in time

`Timestamp.ofText?` reads a date and a time with an offset from UTC.  It is lenient about the form:
months, days, hours, minutes and seconds may have one digit, blanks may stand in front of each
number, of each separator inside the date and the time, of the offset and at the end, and a year
with a sign may have any number of digits.  It is strict about the values.
-/

namespace TriggerLatch

namespace Timestamp

/-- Takes the digits in front of `s`, one to `width` of them, and what they are worth. -/
def takeNumber (width : Nat) (s : Text) : Option (Nat × Text) :=
  let ds := (s.takeWhile Decimal.isDigit).take width
  if ds.isEmpty then none else some (Decimal.value ds, s.drop ds.length)

/-- A number of at most two digits with blanks in front. -/
def takePart (s : Text) : Option (Nat × Text) := takeNumber 2 s.trimStart

/-- A separator with blanks in front. -/
def takeMark (c : Char) (s : Text) : Option Text :=
  match s.trimStart with
  | d :: r => if c = d then some r else none
  | [] => none

/-- A year with blanks in front: behind a sign any number of digits, without one at most four. -/
def takeYear (s : Text) : Option (Int × Text) :=
  match s.trimStart with
  | '-' :: r => (takeNumber r.length r).map fun (n, r) => (-(n : Int), r)
  | '+' :: r => (takeNumber r.length r).map fun (n, r) => ((n : Int), r)
  | r => (takeNumber 4 r).map fun (n, r) => ((n : Int), r)

/-- The nanoseconds behind a point; digits past the ninth do not count. -/
def takeFraction : Text → Option (Nat × Text)
  | '.' :: r =>
    let ds := r.takeWhile Decimal.isDigit
    if ds.isEmpty then none
    else
      let kept := ds.take 9
      some (Decimal.value kept * Nat.pow 10 (9 - kept.length), r.dropWhile Decimal.isDigit)
  | r => some (0, r)

/-- A colon or a blank, as they may stand inside an offset. -/
def isOffsetSeparator (c : Char) : Bool := c == ':' || isBlank c

/-- Two digits. -/
def takeTwo : Text → Option (Nat × Text)
  | a :: b :: r =>
    if Decimal.isDigit a && Decimal.isDigit b then some (Decimal.value [a, b], r) else none
  | _ => none

/-- Hours and minutes of an offset. -/
def takeHoursMinutes (s : Text) : Option (Nat × Text) := do
  let (h, r) ← takeTwo s
  let (m, r) ← takeTwo (r.dropWhile isOffsetSeparator)
  if m < 60 then some (60 * h + m, r) else none

/-- The letters that name UTC. -/
def takeUtc : Text → Option Text
  | 'Z' :: r => some r
  | 'z' :: r => some r
  | a :: b :: c :: r => if [a, b, c].map Char.toUpper = "UTC".toList then some r else none
  | _ => none

/-- The offset from UTC in minutes, with blanks in front. -/
def takeOffset (s : Text) : Option (Int × Text) :=
  let s := s.trimStart
  match takeUtc s with
  | some r => some (0, r)
  | none =>
    match s with
    | [] => none
    | c :: r =>
      if c = '+' then (takeHoursMinutes r).map fun (n, r) => ((n : Int), r)
      else if c = '-' ∨ c = '\u2212' then
        (takeHoursMinutes r).map fun (n, r) => (-(n : Int), r)
      else none

/-- The letter or blank between date and time. -/
def takeDateEnd : Text → Option Text
  | c :: r => if c = 'T' ∨ c = 't' ∨ c = ' ' then some r else none
  | [] => none

/-- **The point in time that the whole text is.** -/
def ofText? (s : Text) : Option Timestamp := do
  let (year, s) ← takeYear s
  let s ← takeMark '-' s
  let (month, s) ← takePart s
  let s ← takeMark '-' s
  let (day, s) ← takePart s
  let s ← takeDateEnd s
  let (hour, s) ← takePart s
  let s ← takeMark ':' s
  let (minute, s) ← takePart s
  let s ← takeMark ':' s
  let (second, s) ← takePart s
  let (nanosecond, s) ← takeFraction s
  let (offset, s) ← takeOffset s
  let date ← Date.of? year month day
  if s.trimStart.isEmpty ∧ hour < 24 ∧ minute < 60 ∧ offset.natAbs < 1440 then
    ofLocal? date hour minute second nanosecond offset
  else none

end Timestamp

end TriggerLatch
