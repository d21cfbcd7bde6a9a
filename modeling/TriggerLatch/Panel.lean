import TriggerLatch.Feed
import TriggerLatch.Latch.Basic

/-!
# The panel

A panel is a latch together with the feed that shows it.  Edge sources fire on the panel
(`Panel.fire`): an edge that latches the trigger is published.  One such source are the signals sent
to the process (`Panel.signal`).  What happens is noted down.
-/

namespace TriggerLatch

/-- A latch, the feed that shows it, and what is to be said about both. -/
structure Panel where
  latch : Latch
  feed : Feed
  notices : List Notice

namespace Panel

/-- A latch started on a store, and a feed that begins with its value. -/
def seed (b : Backing) : Panel :=
  let latch := Latch.seed b
  ⟨latch, .start latch.read, Latch.seedNotices b⟩

/-- With more to say. -/
def say (p : Panel) (ns : List Notice) : Panel := { p with notices := p.notices ++ ns }

/-- **An edge from a source**, which is published if it latches the trigger. -/
def fire (p : Panel) : Bool × Panel :=
  let (latched, latch) := p.latch.recordEdge
  if latched then
    (true, { latch, feed := p.feed.publish true, notices := p.notices ++ [.triggerLatched] })
  else (false, { p with latch })

/-- **A flush that reports its failure** in place of its result. -/
def flushOnce (p : Panel) : Option FlushOutcome × Panel :=
  match p.latch.flush with
  | (.returned (.ok outcome), latch) => (some outcome, { p with latch })
  | (.returned (.error e), latch) => (none, { p with latch }.say [.flushFailed e])
  | (.panicked reason, latch) => (none, { p with latch }.say [.flushPanicked reason])
  | (.blocked, latch) => (none, { p with latch })

/-! ### Signals as edges -/

/-- From now on signals are listened for. -/
def listen (p : Panel) : Panel := p.say [.listeningForSignals]

/-- A signal is an edge; whether it latched the trigger is nobody's concern. -/
def signal (p : Panel) : Panel := p.fire.2

/-- Signals are no longer listened for. -/
def stopListening (p : Panel) : Panel := p.say [.signalsStopped]

end Panel

end TriggerLatch
