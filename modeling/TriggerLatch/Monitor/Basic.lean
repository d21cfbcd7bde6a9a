import TriggerLatch.Monitor.Exchange
import TriggerLatch.Monitor.Report
import TriggerLatch.Monitor.Settings
import TriggerLatch.Monitor.Tracker
import TriggerLatch.Surface.Body

/-!
# The monitor

A monitor polls the state of one device and resets it on demand.  What it reports depends on the
replies alone (`Monitor.hear`): a poll that fails is reported as such and forgotten, and so is a
reset that fails; only readings and resets that succeed move the tracker.
-/

namespace TriggerLatch

/-- A monitor of one device. -/
structure Monitor where
  settings : Monitor.Settings
  tracker : Tracker
  deriving DecidableEq, Repr

namespace Monitor

/-- What a monitor can do. -/
inductive Action where
  | poll
  | reset
  deriving DecidableEq, Repr

namespace Action

/-- With what an action calls the device. -/
def method : Action → Method
  | poll => .get
  | reset => .post

/-- Where an action calls the device, behind its base address. -/
def path : Action → Text
  | poll => "/status".toList
  | reset => "/reset".toList

/-- The flag that the action looks for in a reply; none if the action has failed. -/
def result? : Action → Reply → Option Bool
  | poll, r => r.flag? (Surface.readFlag Surface.statusField)
  | reset, r => r.flag? (Surface.readFlag Surface.resetField)

end Action

/-- A monitor that has not polled yet. -/
def start (settings : Settings) : Monitor := ⟨settings, .start⟩

/-- A reading that took so long. -/
def observe (m : Monitor) (took : Duration) (reading : Bool) : List Report × Monitor :=
  let slow := if took.exceeds m.settings.slowAfter then [.slow took m.settings.slowAfter] else []
  let new := if m.tracker.firesOn reading then [.triggered] else []
  (slow ++ new, { m with tracker := m.tracker.observe reading })

/-- **What a reply to an action makes the monitor report and remember.** -/
def hear (m : Monitor) (a : Action) (r : Reply) : List Report × Monitor :=
  match a, a.result? r with
  | .poll, some reading => m.observe (.ofNanos r.took) reading
  | .poll, none => ([.noResponse (.ofNanos r.took)], m)
  | .reset, some true => ([.resetDone], { m with tracker := m.tracker.markReset })
  | .reset, _ => ([.resetFailed], m)

/-- The reply of a device to an action. -/
def ask {σ : Type} (m : Monitor) (peer : Peer σ) (a : Action) (s : σ) : Reply × σ :=
  exchange peer m.settings.timeout.totalNanos a.method (m.settings.baseUrl ++ a.path) s

end Monitor

end TriggerLatch
