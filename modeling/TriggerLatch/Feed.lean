/-!
# The feed

A feed carries the latch value to those who show it.  It holds one value and counts its changes;
publishing the value it holds is no change.  A subscriber remembers the count it has seen.
-/

namespace TriggerLatch

/-- A published value and how often it has changed. -/
structure Feed where
  value : Bool
  version : Nat
  deriving DecidableEq, Repr

namespace Feed

/-- A feed that begins with a value. -/
def start (value : Bool) : Feed := ⟨value, 0⟩

/-- Publishes a value. -/
def publish (f : Feed) (value : Bool) : Feed :=
  if f.value = value then f else ⟨value, f.version + 1⟩

/-- Publishes several values, one after the other. -/
def publishAll (f : Feed) (values : List Bool) : Feed := values.foldl publish f

/-- A subscriber that has seen so many changes has missed some. -/
def hasNews (f : Feed) (seen : Nat) : Bool := f.version != seen

@[simp] theorem publish_value (f : Feed) (value : Bool) : (f.publish value).value = value := by
  unfold publish; split <;> simp_all

theorem version_publish (f : Feed) (value : Bool) :
    (f.publish value).version = if f.value = value then f.version else f.version + 1 := by
  unfold publish; split <;> rfl

end Feed

end TriggerLatch
