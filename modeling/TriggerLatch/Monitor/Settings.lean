import TriggerLatch.Duration
import TriggerLatch.Monitor.BaseUrl

/-!
# Settings of the monitor

Which device is polled, how often, how long an answer may take before it is called slow, and when
the monitor stops waiting for it.
-/

namespace TriggerLatch.Monitor

/-- How a device is polled. -/
structure Settings where
  baseUrl : Text
  pollInterval : Duration
  /-- An answer that takes longer is reported as slow. -/
  slowAfter : Duration
  /-- An answer that takes longer is not waited for. -/
  timeout : Duration
  deriving DecidableEq, Repr

namespace Settings

/-- The settings that hold where nothing else is said. -/
def standard : Settings := ⟨BaseUrl.standard, ⟨1, 0⟩, ⟨3, 0⟩, ⟨4, 0⟩⟩

/-- The standard settings for the device at this address. -/
def ofAddress (raw : Text) : Settings := { standard with baseUrl := BaseUrl.normalise raw }

end Settings

end TriggerLatch.Monitor
