import TriggerLatch.Duration

/-!
# Reports of the monitor

What the monitor tells its user, one line each.
-/

namespace TriggerLatch

/-- A line of the monitor's output. -/
inductive Report where
  /-- The trigger has occurred. -/
  | triggered
  /-- An answer took longer than it should. -/
  | slow (elapsed threshold : Duration)
  /-- No usable answer came. -/
  | noResponse (elapsed : Duration)
  /-- The device was reset. -/
  | resetDone
  /-- The device was not reset. -/
  | resetFailed
  deriving DecidableEq, Repr

namespace Report

/-- The line that is printed. -/
def display : Report → Text
  | triggered => "Triggered!".toList
  | slow elapsed threshold =>
    "[Slow] Response took ".toList ++ elapsed.toBinary64.displayTwoPlaces ++ "s (>".toList ++
      threshold.toBinary64.display ++ "s)".toList
  | noResponse elapsed =>
    "[Error] No response (took ".toList ++ elapsed.toBinary64.displayTwoPlaces ++ "s)".toList
  | resetDone => "[Reset] Triggered state cleared.".toList
  | resetFailed => "[Reset] Request failed.".toList

end Report

end TriggerLatch
