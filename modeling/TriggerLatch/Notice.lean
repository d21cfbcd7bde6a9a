import TriggerLatch.Line
import TriggerLatch.Link
import TriggerLatch.Net.Endpoint
import TriggerLatch.Store.Error

/-!
# Notices

What a running daemon tells its operator.  A notice says what happened; `Notice.text` is its line in
the log, which begins with how grave it is.
-/

namespace TriggerLatch

/-- Something worth a line in the log. -/
inductive Notice where
  | loadFailed (error : StoreError)
  | seeded (triggered : Bool)
  | flusherStarted
  | flushFailed (error : PersistError)
  | flushPanicked (reason : String)
  | flusherStopped
  | samplingStarted (period : Nat)
  | lineReadable
  | sampleFailed (error : LineError)
  | samplingStopped
  | listeningForSignals
  | signalsStopped
  | triggerLatched
  | indicatorUpdated (triggered : Bool)
  | indicatorFailed (path : Path) (fault : Files.Fault)
  | indicatorPanicked (reason : String)
  | resetNotPersisted (error : PersistError)
  | resetPanicked (reason : String)
  | triggerReset
  | linkAttached (attempt : Nat)
  | linkNotReady (attempt attempts : Nat) (error : LinkError)
  | attachFailed (attempts : Nat) (error : LinkError)
  | linkRecovered (failures : Nat)
  | probeFailed (failures lostAfter : Nat) (error : LinkError)
  | linkLost (failures : Nat)
  | stoppedWhileAttaching
  | listening (on : Endpoint)
  deriving DecidableEq, Repr

namespace Notice

/-- A number in a line of the log. -/
def number (n : Nat) : String := String.ofList (Decimal.digits n)

/-- A flag in a line of the log. -/
def flag (b : Bool) : String := if b then "true" else "false"

/-- How the end of a task by a panic is reported; the task's number is left out. -/
def taskPanic (reason : String) : String :=
  "task # panicked with message " ++ Quoted.quote reason.toList

/-- The line of a notice. -/
def text : Notice → String
  | loadFailed e => "WARN Failed to load stored latch value, starting idle error=" ++ e.message
  | seeded b => "INFO Latch seeded triggered=" ++ flag b
  | flusherStarted => "INFO Flusher started"
  | flushFailed e => "WARN Failed to persist latch, retrying next wake error=" ++ e.message
  | flushPanicked reason => "ERROR Flush task failed error=" ++ taskPanic reason
  | flusherStopped => "INFO Flusher stopped"
  | samplingStarted period => "INFO Sampling trigger line period_ms=" ++ number period
  | lineReadable => "INFO Trigger line readable again"
  | sampleFailed e => "WARN Failed to sample trigger line error=" ++ e.message
  | samplingStopped => "INFO Trigger line sampling stopped"
  | listeningForSignals => "INFO Listening for SIGUSR1 edges"
  | signalsStopped => "INFO Signal edge source stopped"
  | triggerLatched => "INFO Trigger latched"
  | indicatorUpdated b => "INFO Indicator updated triggered=" ++ flag b
  | indicatorFailed path fault =>
    "WARN Failed to drive indicator path=" ++ String.ofList path ++ " error=" ++ fault.message
  | indicatorPanicked reason => "ERROR Indicator write task failed error=" ++ taskPanic reason
  | resetNotPersisted e =>
    "WARN Reset not persisted, deferred to flusher error=" ++ e.message
  | resetPanicked reason => "ERROR Reset task failed error=" ++ taskPanic reason
  | triggerReset => "INFO Trigger reset"
  | linkAttached attempt => "INFO Link attached attempt=" ++ number attempt
  | linkNotReady attempt attempts e =>
    "INFO Link not ready, retrying attempt=" ++ number attempt ++ " attempts=" ++
      number attempts ++ " error=" ++ e.message
  | attachFailed attempts e =>
    "ERROR Link failed to attach attempts=" ++ number attempts ++ " error=" ++ e.message
  | linkRecovered failures => "INFO Link recovered failures=" ++ number failures
  | probeFailed failures lostAfter e =>
    "WARN Link probe failed failures=" ++ number failures ++ " lost_after=" ++
      number lostAfter ++ " error=" ++ e.message
  | linkLost failures => "ERROR Link lost failures=" ++ number failures
  | stoppedWhileAttaching => "INFO Shutdown requested while attaching"
  | listening on => "INFO listening on " ++ String.ofList on.display

end Notice

end TriggerLatch
