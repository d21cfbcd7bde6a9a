import TriggerLatch.Decimal.Shortest

/-!
# Spans of time

A span is a number of seconds and a rest in nanoseconds.  As a number of double precision, its
seconds and its nanoseconds are rounded on their own and their sum once more.
-/

namespace TriggerLatch

/-- A span of time. -/
structure Duration where
  seconds : Nat
  nanoseconds : Nat
  deriving DecidableEq, Repr

namespace Duration

/-- So many nanoseconds make a second. -/
def nanosPerSecond : Nat := 1000000000

/-- The longest span has fewer seconds than this. -/
def secondsLimit : Nat := Nat.pow 2 64

/-- All of it in nanoseconds. -/
def totalNanos (d : Duration) : Nat := d.seconds * nanosPerSecond + d.nanoseconds

/-- The span of so many nanoseconds. -/
def ofNanos (n : Nat) : Duration := ⟨n / nanosPerSecond, n % nanosPerSecond⟩

/-- The span of so many milliseconds. -/
def ofMillis (n : Nat) : Duration := ofNanos (n * 1000000)

/-- The first span is longer. -/
def exceeds (d e : Duration) : Bool := e.totalNanos < d.totalNanos

/-- The span in seconds, as a number of double precision. -/
def toBinary64 (d : Duration) : Binary64 :=
  let whole := (Binary64.ofRatio? d.seconds 1).getD .zero
  let rest := (Binary64.ofRatio? d.nanoseconds nanosPerSecond).getD .zero
  (whole.add? rest).getD .zero

/-- The span of so many seconds, rounded to the nanosecond; one that is too long has none. -/
def ofSeconds? (x : Binary64) : Option Duration :=
  let (n, d) := x.toRatio
  let span := ofNanos (roundHalfEven (n * nanosPerSecond) d)
  if span.seconds < secondsLimit then some span else none

end Duration

end TriggerLatch
