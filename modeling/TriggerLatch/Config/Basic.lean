import TriggerLatch.Net.Endpoint
import TriggerLatch.Path.Basic
import TriggerLatch.Store.Key
import TriggerLatch.Supervision.Policy

/-!
# Configuration

What a running daemon is told: where it listens, where it keeps the latch, where edges come from
and what it drives.  Times are in milliseconds.
-/

namespace TriggerLatch

/-- Where edges come from. -/
inductive Trigger where
  /-- A signal sent to the process. -/
  | signal
  /-- A value file, sampled every `period`. -/
  | line (path : Path) (period : Nat)
  deriving DecidableEq, Repr

/-- The complete configuration of a daemon. -/
structure Config where
  listen : Endpoint
  stateDir : Path
  key : StoreKey
  flushInterval : Nat
  trigger : Trigger
  /-- The file driven with the latch value, if any. -/
  indicatorPath : Option Path
  /-- The interface whose link gates the network surface, if any. -/
  linkInterface : Option Text
  policy : Policy
  deriving DecidableEq, Repr

namespace Config

/-- The address listened on when none is given: every interface, port 8080. -/
def standardListen : Endpoint := .v4 ⟨0, 0, 0, 0⟩ 8080

/-- The directory of the store when none is given. -/
def standardStateDir : Path := "/var/lib/doormon".toList

/-- The interval of the flusher when none is given. -/
def standardFlushInterval : Nat := 1000

/-- The sampling period of a line when none is given. -/
def standardPollPeriod : Nat := 10

/-- The configuration of an empty environment. -/
def standard : Config where
  listen := standardListen
  stateDir := standardStateDir
  key := .standard
  flushInterval := standardFlushInterval
  trigger := .signal
  indicatorPath := none
  linkInterface := none
  policy := .standard

end Config

end TriggerLatch
