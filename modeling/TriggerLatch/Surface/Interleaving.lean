import TriggerLatch.Surface.Router

/-!
# Edges and reset requests at the same time

Any number of edges from sources and of reset requests use one panel.  An edge is two actions: it
reaches the latch, and is published if it latched the trigger.  A reset request is three: the
latch is reset, it is read, and what was read is published.  The actions take place one at a time,
in any order among the users (`Hall.run`).
-/

namespace TriggerLatch.Surface

/-- Someone who uses a panel, by what is to be done next. -/
inductive User where
  /-- An edge that has not reached the latch. -/
  | fires
  /-- A reset request that has not reached the latch. -/
  | resets
  /-- A reset request that will read the latch. -/
  | reads
  | publishes (value : Bool)
  | done
  deriving DecidableEq, Repr

namespace User

/-- The next action of a user, and what is to be done then. -/
def act (p : Panel) : User → User × Panel
  | .fires =>
    let (latched, latch) := p.latch.recordEdge
    (if latched then .publishes true else .done, { p with latch })
  | .resets => (.reads, { p with latch := p.latch.reset.2 })
  | .reads => (.publishes p.latch.read, p)
  | .publishes value => (.done, { p with feed := p.feed.publish value })
  | .done => (.done, p)

end User

/-- A panel and those who use it. -/
structure Hall where
  panel : Panel
  users : List User

namespace Hall

/-- The next action of one user. -/
def step (h : Hall) (i : Nat) : Hall :=
  match h.users[i]? with
  | none => h
  | some u =>
    let (u, panel) := u.act h.panel
    ⟨panel, h.users.set i u⟩

/-- Actions in the order of a schedule. -/
def run (h : Hall) (schedule : List Nat) : Hall := schedule.foldl step h

/-- Everyone has finished. -/
def settled (h : Hall) : Prop := ∀ u ∈ h.users, u = .done

end Hall

end TriggerLatch.Surface
