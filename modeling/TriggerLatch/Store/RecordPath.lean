import TriggerLatch.Path.Basic
import TriggerLatch.Store.Key

/-!
# Where a record lies

The record of a key lies in the directory named by its namespace, in a file named by the key with
`.json` behind it.
-/

namespace TriggerLatch.StoreKey

/-- What the file name of a record ends in. -/
def recordSuffix : Text := ".json".toList

/-- The path of the record of a key below `root`. -/
def recordPath (root : Path) (k : StoreKey) : Path :=
  Path.join (Path.join root k.namespaceName) (k.name ++ recordSuffix)

end TriggerLatch.StoreKey
