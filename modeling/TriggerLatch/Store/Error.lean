import TriggerLatch.Decimal.Natural
import TriggerLatch.Files.Fault

/-!
# Failures of a store

Why a store could not load or save a value, and why the latch could not make one durable.
-/

namespace TriggerLatch

/-- Why a store refused. -/
inductive StoreError where
  /-- A file operation failed. -/
  | io (fault : Files.Fault)
  /-- The record does not read. -/
  | malformed
  /-- The record has another version than the one accepted. -/
  | schemaMismatch (expected got : Nat)
  /-- The medium does not answer. -/
  | unavailable (text : Text)
  deriving DecidableEq, Repr

/-- The text that reports a store's failure. -/
def StoreError.message : StoreError → String
  | io fault => "IO error: " ++ fault.message
  | malformed => "JSON error"
  | schemaMismatch expected got =>
    "schema version mismatch: expected " ++ String.ofList (Decimal.digits expected) ++ ", got " ++
      String.ofList (Decimal.digits got)
  | unavailable text => "store unavailable: " ++ String.ofList text

/-- Why a value is not durable yet. -/
inductive PersistError where
  /-- Another write is under way. -/
  | busy
  /-- The store refused. -/
  | store (error : StoreError)
  deriving DecidableEq, Repr

/-- The text that reports why a value is not durable yet. -/
def PersistError.message : PersistError → String
  | busy => "persistence busy, write deferred to the next flush"
  | store e => "store error: " ++ e.message

end TriggerLatch
