import TriggerLatch.Text.Blank

/-!
# Following a device's readings

A `Tracker` remembers the last reading of a device, if there was one, and tells a new trigger
from one that was there before.  The first reading only sets the baseline.
-/

namespace TriggerLatch

/-- The last known value of the device. -/
structure Tracker where
  baseline : Option Bool
  deriving DecidableEq, Repr

namespace Tracker

/-- Nothing is known yet. -/
def start : Tracker := ⟨none⟩

/-- A reading is a new trigger when the value before it is known to be false. -/
def firesOn (t : Tracker) (reading : Bool) : Bool := t.baseline == some false && reading

/-- Each reading is the new baseline. -/
def observe (_ : Tracker) (reading : Bool) : Tracker := ⟨some reading⟩

/-- After a reset that succeeded, the device is known to be clear. -/
def markReset (_ : Tracker) : Tracker := ⟨some false⟩

end Tracker

end TriggerLatch
