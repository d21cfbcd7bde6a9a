import TriggerLatch.Supervision.Attach

/-!
# Watching a link

A link that is attached is probed at regular intervals.  Enough failures in a row mean that it is
lost; a probe that succeeds starts the count again.  A tick that is late, because the probe before
it took long, puts off the ticks after it, unless it is late by next to nothing.

A watch waits for its next tick and for a shutdown at once.  If a probe has outlasted the next tick
and a shutdown has come meanwhile, both are there when it ends, and either may be taken first.
Which one is, in each such case, is given (`overtakes`), so that what a watch does is a function.
-/

namespace TriggerLatch.Supervision

/-- How watching ends. -/
inductive WatchEnding where
  | lost (failures : Nat)
  /-- A shutdown came first. -/
  | stopped
  /-- It has not ended: so many probes were made as were asked for. -/
  | watching
  deriving DecidableEq, Repr

/-- A watch under way. -/
structure Watch where
  now : Nat
  /-- When the next tick is due. -/
  due : Nat
  /-- Failed probes since the last one that succeeded. -/
  failures : Nat
  /-- Probes made so far. -/
  probes : Nat
  deriving DecidableEq, Repr

/-- What watching came to. -/
structure Watched where
  ending : WatchEnding
  /-- When it ended. -/
  time : Nat
  /-- How many probes were made. -/
  probes : Nat
  notices : List Notice
  deriving DecidableEq, Repr

namespace Watched

/-- With notices in front. -/
def announce (ns : List Notice) (w : Watched) : Watched := { w with notices := ns ++ w.notices }

/-- The phases set on the way. -/
def phases (w : Watched) : List Phase :=
  match w.ending with
  | .lost _ => [.lost]
  | _ => []

end Watched

/-- A tick that comes at most so much after it was due is in time. -/
def tickTolerance : Nat := 5

namespace Watch

/-- Before the first tick, which is due one interval from now. -/
def start (policy : Policy) (now : Nat) : Watch := ⟨now, now + policy.checkInterval, 0, 0⟩

/-- When the next tick fires. -/
def fires (w : Watch) : Nat := max w.now w.due

/-- When the tick after that is due. -/
def nextDue (policy : Policy) (w : Watch) : Nat :=
  if w.due + tickTolerance < w.fires then w.fires + policy.checkInterval
  else w.due + policy.checkInterval

/-- The shutdown is taken before the next tick.  It can be seen once it has come, the tick once it
is due; if that is at the same moment, the tick goes first if it `overtakes`. -/
def stopsFirst (stop : Option Nat) (overtakes : Bool) (w : Watch) : Bool :=
  stop.any fun s =>
    let seen := max w.now s
    seen < w.fires || seen == w.fires && !overtakes

/-- After the next tick and a probe. -/
def probed (policy : Policy) (w : Watch) (probe : Probe) : Watch where
  now := w.fires + probe.took
  due := w.nextDue policy
  failures := if probe.failure.isNone then 0 else w.failures + 1
  probes := w.probes + 1

/-- What is said about a probe. -/
def notices (policy : Policy) (w : Watch) (probe : Probe) : List Notice :=
  match probe.failure with
  | none => if 0 < w.failures then [.linkRecovered w.failures] else []
  | some e =>
    .probeFailed (w.failures + 1) policy.losses e ::
      if policy.losses ≤ w.failures + 1 then [.linkLost (w.failures + 1)] else []

end Watch

/-- A watch carried on for at most `fuel` more probes. -/
def watchFrom (policy : Policy) (probes : Probes) (stop : Option Nat) (overtakes : Nat → Bool) :
    (fuel : Nat) → Watch → Watched
  | 0, w => ⟨.watching, w.now, w.probes, []⟩
  | fuel + 1, w =>
    if w.stopsFirst stop (overtakes w.probes) then
      ⟨.stopped, max w.now (stop.getD w.now), w.probes, []⟩
    else
      let probe := probes w.probes
      let w' := w.probed policy probe
      let rest :=
        if policy.losses ≤ w'.failures then ⟨.lost w'.failures, w'.now, w'.probes, []⟩
        else watchFrom policy probes stop overtakes fuel w'
      rest.announce (w.notices policy probe)

/-- **Probes an attached link until it is lost or a shutdown comes**, for at most `fuel` probes.
`overtakes n` says whether the tick after `n` probes goes before a shutdown that is seen with it. -/
def watch (policy : Policy) (probes : Probes) (stop : Option Nat) (fuel now : Nat)
    (overtakes : Nat → Bool := fun _ => false) : Watched :=
  watchFrom policy probes stop overtakes fuel (.start policy now)

end TriggerLatch.Supervision
