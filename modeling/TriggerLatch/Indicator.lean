import TriggerLatch.Files.Access
import TriggerLatch.Notice

/-!
# Indicators

An indicator shows the latch to someone on the spot.  It may write a line to the log, drive a file,
or keep a record of what it was shown.  A show that fails is reported and otherwise ignored.
-/

namespace TriggerLatch

/-- How an indicator shows a value. -/
inductive Output where
  /-- It notes down when it was shown what. -/
  | record
  /-- It writes a line to the log. -/
  | log
  /-- It writes a digit to a file. -/
  | file (path : Path)
  deriving DecidableEq, Repr

/-- What happens while a recording indicator shows a value. -/
structure Showing where
  /-- These are published meanwhile. -/
  publishes : List Bool
  /-- The show ends in a panic. -/
  panics : Bool
  deriving DecidableEq, Repr

/-- An indicator that is driven by a feed. -/
structure Indicator where
  output : Output
  /-- What happens during the shows to come; behind the end, nothing does. -/
  plan : List Showing
  /-- The shows that were recorded: when, and what. -/
  shows : List (Nat × Bool)
  /-- The state of the feed that was shown last; none before the first show. -/
  seen : Option Nat
  deriving DecidableEq, Repr

namespace Indicator

/-- What a panicking show says. -/
def panicReason : String := "indicator"

/-- What a file is driven with. -/
def fileContent (value : Bool) : Bytes := if value then [49, 10] else [48, 10]

/-- A value driven to a file. -/
def drive (files : Files.Tree) (path : Path) (value : Bool) : Files.Tree × List Notice :=
  match Files.write files path (fileContent value) with
  | .ok files => (files, [])
  | .error e => (files, [.indicatorFailed path e])

/-- What happens during the next show. -/
def nextShowing (i : Indicator) : Showing := i.plan.headD ⟨[], false⟩

end Indicator

end TriggerLatch
