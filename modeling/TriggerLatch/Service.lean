import TriggerLatch.Supervision.Watch

/-!
# Serving

The network surface is gated by its link: nothing is bound until the link is attached, and a link
that is lost ends the service.  The end of the watch asks everything else in the process to stop
as well.  A shutdown while attaching ends the service before anything is bound.
-/

namespace TriggerLatch.Service

open Supervision

/-- Why a service ended in failure. -/
inductive Error where
  | supervision (error : Supervision.Error)
  /-- The address could not be listened on. -/
  | bind (address : Endpoint)
  deriving DecidableEq, Repr

/-- What a service came to. -/
structure Outcome where
  /-- The failure it ended in; none where it was asked to stop, or where it has not ended within
  the probes looked at. -/
  failure : Option Error
  /-- The phases set on the way. -/
  phases : List Phase
  /-- The address was bound. -/
  bound : Bool
  /-- Everything else was asked to stop, by the service or by others before it ended. -/
  stopped : Bool
  /-- When it ended. -/
  time : Nat
  /-- How many probes were begun. -/
  probes : Nat
  notices : List Notice
  deriving DecidableEq, Repr

namespace Outcome

/-- The phase at the end. -/
def phase (o : Outcome) : Phase := o.phases.getLast?.getD .attaching

end Outcome

/-- The shutdown has come by `time`. -/
def stoppedBy (stop : Option Nat) (time : Nat) : Bool := stop.any (· ≤ time)

/-- A service whose link is attached. -/
def serve (policy : Policy) (probes : Probes) (stop : Option Nat) (fuel : Nat)
    (address : Endpoint) (overtakes : Nat → Bool) (attached : Attached) : Outcome :=
  let watched := watch policy (probes.after attached.probes) stop fuel attached.time overtakes
  { failure := match watched.ending with
      | .lost failures => some (.supervision (.linkLost failures))
      | _ => none
    phases := attached.phases ++ watched.phases
    bound := true
    stopped := true
    time := watched.time
    probes := attached.probes + watched.probes
    notices := attached.notices ++ .listening address :: watched.notices }

/-- **Attaches the link, binds the address and serves until the link is lost or a shutdown
comes**, for at most `fuel` probes once attached.  Which ticks of the watch go before a shutdown
that is seen with them is given by `overtakes`, as for `watch`. -/
def run (policy : Policy) (probes : Probes) (stop : Option Nat) (fuel : Nat)
    (canBind : Endpoint → Bool) (address : Endpoint)
    (overtakes : Nat → Bool := fun _ => false) : Outcome :=
  let attached := attach policy probes stop 0
  let ended (failure : Option Error) (stopped : Bool) (more : List Notice) : Outcome :=
    { failure, phases := attached.phases, bound := false, stopped, time := attached.time
      probes := attached.probes, notices := attached.notices ++ more }
  match attached.ending with
  | .interrupted => ended none true [.stoppedWhileAttaching]
  | .failed e =>
    ended (some (.supervision (.attachFailed policy.attempts e))) (stoppedBy stop attached.time) []
  | .attached =>
    if canBind address then serve policy probes stop fuel address overtakes attached
    else ended (some (.bind address)) (stoppedBy stop attached.time) []

end TriggerLatch.Service
