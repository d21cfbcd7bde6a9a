import TriggerLatch.Text.Blank

/-!
# Store keys

A store holds one value, named by a namespace and a key.
-/

namespace TriggerLatch

/-- Where a latch's value is kept. -/
structure StoreKey where
  namespaceName : Text
  name : Text
  deriving DecidableEq, Repr

namespace StoreKey

/-- The key used when nothing else is configured. -/
def standard : StoreKey := ⟨"doormon".toList, "triggered".toList⟩

/-- Namespace and key with a slash between them. -/
def display (k : StoreKey) : Text := k.namespaceName ++ '/' :: k.name

end StoreKey

end TriggerLatch
