import TriggerLatch.Store.Basic

/-!
# Scripted saves

What will happen in the saves to come is given by a script.  Each save takes the next item: it names
the edges and resets that reach the latch while the save is under way, and how the save ends.
Behind the end of the script, saves are not disturbed.
-/

namespace TriggerLatch

/-- Something that reaches the latch while a save is under way. -/
inductive Disturbance where
  | edge
  | reset
  deriving DecidableEq, Repr

/-- How a save ends. -/
inductive Verdict where
  /-- The store decides. -/
  | commit
  /-- The save fails before it reaches the store. -/
  | refuse (error : StoreError)
  /-- The save panics before it reaches the store. -/
  | panic
  deriving DecidableEq, Repr

/-- One save to come. -/
structure SaveItem where
  during : List Disturbance
  verdict : Verdict
  deriving DecidableEq, Repr

namespace SaveItem

/-- A save that nothing disturbs. -/
def plain : SaveItem := ⟨[], .commit⟩

end SaveItem

/-- What a panicking save says. -/
def panicReason : String := "injected panic"

/-- A wall clock: what it reads at each millisecond since the start.  It need not go with the time
that passes; someone may set it. -/
structure WallClock where
  reading : Nat → Timestamp

/-- A wall clock that stands still. -/
instance : Coe Timestamp WallClock := ⟨fun now => ⟨fun _ => now⟩⟩

/-- The time: milliseconds since the start, and the wall clock that records are dated by. -/
structure Clock where
  millis : Nat
  wall : WallClock

/-- What the wall clock reads now. -/
def Clock.utc (c : Clock) : Timestamp := c.wall.reading c.millis

end TriggerLatch
