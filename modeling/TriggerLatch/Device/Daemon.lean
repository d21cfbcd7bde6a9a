import TriggerLatch.Config.Basic
import TriggerLatch.Device.Command

/-!
# Daemons

A daemon is the device that a configuration describes (`Device.ofConfig`): the latch keeps its value
in a file, the flusher runs, edges come from signals or from a line, and an indicator shows the
latch.
-/

namespace TriggerLatch

namespace Config

/-- The store of a configuration. -/
def store (c : Config) : Store := .file (c.key.recordPath c.stateDir)

/-- The poller of the line, if edges come from one. -/
def poller (c : Config) : Option LinePoller :=
  match c.trigger with
  | .signal => none
  | .line path period => some ⟨path, period, .unstarted, .start⟩

/-- What the latch is shown on. -/
def indicator (c : Config) : Indicator :=
  ⟨(c.indicatorPath.map Output.file).getD .log, [], [], none⟩

end Config

namespace Device

/-- The device that a configuration describes, started on what an earlier one has left. -/
def ofConfig (c : Config) (medium : Medium) (clock : Clock) : Device :=
  .seed ⟨c.store, medium, none, [], [], clock⟩ (some ⟨c.flushInterval, .unstarted⟩) c.poller
    (some c.indicator)

/-- A signal reaches the device; it is an edge unless edges come from a line. -/
def signal (d : Device) : Device :=
  if d.line.isNone then d.withPanel d.panel.signal else d

/-- Time passes until something holds, but not more than so many milliseconds. -/
def waitFor (holds : Device → Bool) : Nat → Device → Device
  | 0, d => d
  | millis + 1, d => if holds d then d else waitFor holds millis d.tick

end Device

end TriggerLatch
