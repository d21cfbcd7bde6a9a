import TriggerLatch.Supervision.Basic

/-!
# Attaching a link

A link is attached by the first probe that succeeds.  Probes are repeated after a pause, as often as
the policy allows; there is no pause after the last one.  A shutdown may come in between.
-/

namespace TriggerLatch.Supervision

/-- How attaching ends. -/
inductive AttachEnding where
  | attached
  | failed (last : LinkError)
  /-- A shutdown came first. -/
  | interrupted
  deriving DecidableEq, Repr

/-- What attaching came to. -/
structure Attached where
  ending : AttachEnding
  /-- When it ended. -/
  time : Nat
  /-- How many probes were begun. -/
  probes : Nat
  notices : List Notice
  deriving DecidableEq, Repr

namespace Attached

/-- With a notice in front. -/
def announce (n : Notice) (a : Attached) : Attached := { a with notices := n :: a.notices }

/-- The phases set on the way. -/
def phases (a : Attached) : List Phase :=
  .attaching ::
    match a.ending with
    | .attached => [.ready]
    | .failed _ => [.lost]
    | .interrupted => []

/-- What attaching returns; nothing if a shutdown came first. -/
def result? (policy : Policy) (a : Attached) : Option (Except Error Unit) :=
  match a.ending with
  | .attached => some (.ok ())
  | .failed last => some (.error (.attachFailed policy.attempts last))
  | .interrupted => none

end Attached

/-- The shutdown comes before `time`. -/
def stopsBefore (stop : Option Nat) (time : Nat) : Bool := stop.any (· < time)

/-- From time `now`, with `made` probes behind and at most `left` more to come after the next. -/
def attachFrom (policy : Policy) (probes : Probes) (stop : Option Nat) :
    (left made now : Nat) → Attached
  | left, made, now =>
    let probe := probes made
    let attempt := made + 1
    let done := now + probe.took
    if stopsBefore stop done then ⟨.interrupted, stop.getD done, attempt, []⟩
    else
      match probe.failure, left with
      | none, _ => ⟨.attached, done, attempt, [.linkAttached attempt]⟩
      | some e, 0 => ⟨.failed e, done, attempt, [.attachFailed policy.attempts e]⟩
      | some e, left + 1 =>
        let next := done + policy.attachRetry
        let rest :=
          if stopsBefore stop next then ⟨.interrupted, stop.getD next, attempt, []⟩
          else attachFrom policy probes stop left attempt next
        rest.announce (.linkNotReady attempt policy.attempts e)

/-- **Probes the link until it is attached, the attempts are spent or a shutdown comes.** -/
def attach (policy : Policy) (probes : Probes) (stop : Option Nat) (now : Nat) : Attached :=
  attachFrom policy probes stop (policy.attempts - 1) 0 now

end TriggerLatch.Supervision
