import TriggerLatch.Decimal.Literal
import TriggerLatch.Decimal.Shortest

/-!
# Seconds on the command line

A span on the command line is a positive number of seconds, as it is typed.
-/

namespace TriggerLatch.Monitor.Seconds

/-- What can be wrong with a number of seconds. -/
inductive ReadError where
  | number (error : Decimal.Literal.ReadError)
  | notPositive
  deriving DecidableEq, Repr

/-- The text that reports it. -/
def ReadError.message : ReadError → String
  | number e => e.message
  | notPositive => "must be a positive number of seconds"

/-- The number of seconds that is typed. -/
def read (s : Text) : Except ReadError Binary64 :=
  match Decimal.Literal.read s with
  | .error e => .error (.number e)
  | .ok (.finite false x) => if x.mantissa = 0 then .error .notPositive else .ok x
  | .ok _ => .error .notPositive

end TriggerLatch.Monitor.Seconds
