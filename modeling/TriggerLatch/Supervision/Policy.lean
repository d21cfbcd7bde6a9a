/-!
# Supervision policy

How often the link is probed, and how many failed probes are one too many.  Times are in
milliseconds.
-/

namespace TriggerLatch

/-- When a link counts as attached or lost. -/
structure Policy where
  /-- Probes made while attaching before giving up. -/
  attachAttempts : Nat
  /-- Time between two of these probes. -/
  attachRetry : Nat
  /-- Time between probes of an attached link. -/
  checkInterval : Nat
  /-- Consecutive failed probes of an attached link that mean it is lost. -/
  lostAfter : Nat
  deriving DecidableEq, Repr

namespace Policy

/-- The policy used when nothing else is configured. -/
def standard : Policy := ⟨5, 2000, 5000, 3⟩

/-- At least one attempt is made. -/
def attempts (p : Policy) : Nat := max p.attachAttempts 1

/-- At least one failure is needed. -/
def losses (p : Policy) : Nat := max p.lostAfter 1

theorem attempts_pos (p : Policy) : 0 < p.attempts := by unfold attempts; omega

theorem losses_pos (p : Policy) : 0 < p.losses := by unfold losses; omega

end Policy

end TriggerLatch
