import TriggerLatch.Notice
import TriggerLatch.Supervision.Policy

/-!
# Supervision of a link

A supervisor probes a link, first until it is attached and then at regular intervals until it is
lost.  Each probe takes its time and succeeds or fails; the probes to come are given as a row
(`Probes`), so that what a supervisor does is a function of that row.  Times are in milliseconds.
-/

namespace TriggerLatch.Supervision

/-- Where a supervised link stands. -/
inductive Phase where
  | attaching
  | ready
  | lost
  deriving DecidableEq, Repr

/-- What a probe will do: how long it takes, and how it fails, if it does. -/
structure Probe where
  took : Nat
  failure : Option LinkError
  deriving DecidableEq, Repr

/-- The probes to come, in order. -/
abbrev Probes := Nat → Probe

namespace Probes

/-- A row of given probes, and one that is repeated after them. -/
def ofList (first : List Probe) (then_ : Probe) : Probes := fun i => first.getD i then_

/-- The probes to come after the first `n`. -/
def after (probes : Probes) (n : Nat) : Probes := fun i => probes (n + i)

end Probes

/-- Why supervision ended. -/
inductive Error where
  /-- The link never came up. -/
  | attachFailed (attempts : Nat) (last : LinkError)
  /-- The link went away. -/
  | linkLost (failures : Nat)
  deriving DecidableEq, Repr

/-- The text that reports why supervision ended. -/
def Error.message : Error → String
  | attachFailed attempts last =>
    "link did not attach after " ++ Notice.number attempts ++ " attempts: " ++ last.message
  | linkLost failures =>
    "link lost after " ++ Notice.number failures ++ " consecutive failed probes"

end TriggerLatch.Supervision
