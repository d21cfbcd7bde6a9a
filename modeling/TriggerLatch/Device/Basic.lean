import TriggerLatch.Indicator
import TriggerLatch.Panel

/-!
# Devices

A device is a panel with the tasks that run beside it: a flusher, a sampled line and an indicator,
each of which may be missing.  Time is counted in milliseconds and passes only while the device
waits.  `Device.settle` lets every task do what is due now, `Device.tick` does that and lets a
millisecond pass, and `Device.wait` repeats it.
-/

namespace TriggerLatch

/-- Where a task that wakes at intervals stands. -/
inductive Task where
  | unstarted
  /-- It wakes at this time. -/
  | due (time : Nat)
  | failed (reason : String)
  | ended
  deriving DecidableEq, Repr

/-- A task that has just started and wakes at once; an interval of zero is refused. -/
def Task.begin (period now : Nat) : Task :=
  if period = 0 then .failed "`period` must be non-zero." else .due now

/-- The task that flushes the latch. -/
structure Flusher where
  period : Nat
  task : Task
  deriving DecidableEq, Repr

/-- The task that samples a line. -/
structure LinePoller where
  path : Path
  period : Nat
  task : Task
  sampler : Sampler
  deriving DecidableEq, Repr

/-- A panel and what runs beside it. -/
structure Device where
  panel : Panel
  /-- The state of the feed that a subscriber has seen. -/
  receiver : Nat
  flusher : Option Flusher
  line : Option LinePoller
  indicator : Option Indicator

namespace Device

/-- The time. -/
def now (d : Device) : Nat := d.panel.latch.backing.clock.millis

/-- The files. -/
def files (d : Device) : Files.Tree := d.panel.latch.backing.medium.files

/-- With other files. -/
def withFiles (d : Device) (files : Files.Tree) : Device :=
  { d with
    panel.latch.backing.medium.files := files }

/-- With more to say. -/
def say (d : Device) (ns : List Notice) : Device := { d with panel := d.panel.say ns }

/-! ### The flusher -/

/-- The flusher starts, if it has not yet. -/
def startFlusher (d : Device) (f : Flusher) : Device × Flusher :=
  match f.task with
  | .unstarted => (d.say [.flusherStarted], { f with task := .begin f.period d.now })
  | _ => (d, f)

/-- The flusher does what is due. -/
def settleFlusher (d : Device) : Device :=
  match d.flusher with
  | none => d
  | some f =>
    let (d, f) := d.startFlusher f
    match f.task with
    | .due time =>
      if time ≤ d.now then
        { d with
          panel := d.panel.flushOnce.2
          flusher := some { f with task := .due (time + f.period) } }
      else { d with flusher := some f }
    | _ => { d with flusher := some f }

/-! ### The line -/

/-- The poller starts, if it has not yet. -/
def startLine (d : Device) (l : LinePoller) : Device × LinePoller :=
  match l.task with
  | .unstarted => (d.say [.samplingStarted l.period], { l with task := .begin l.period d.now })
  | _ => (d, l)

/-- What is said about a sample. -/
def sampleNotices (s : Sampler) (x : Sample) : List Notice :=
  (if s.recoversOn x then [.lineReadable] else []) ++ ((s.warnsOn x).map .sampleFailed).toList

/-- A sample is taken, and fires if the line falls. -/
def sampleLine (d : Device) (l : LinePoller) : Device × LinePoller :=
  let x := Sample.take d.files l.path
  let d := d.say (sampleNotices l.sampler x)
  let d := if l.sampler.firesOn x then { d with panel := d.panel.fire.2 } else d
  (d, { l with sampler := l.sampler.step x })

/-- The poller does what is due. -/
def settleLine (d : Device) : Device :=
  match d.line with
  | none => d
  | some l =>
    let (d, l) := d.startLine l
    match l.task with
    | .due time =>
      if time ≤ d.now then
        let (d, l) := d.sampleLine l
        { d with line := some { l with task := .due (time + l.period) } }
      else { d with line := some l }
    | _ => { d with line := some l }

/-! ### The indicator -/

/-- The indicator shows the value of the feed, if it has not shown it since it last changed. -/
def showNews (d : Device) : Device :=
  match d.indicator with
  | none => d
  | some i =>
    if i.seen = some d.panel.feed.version then d
    else
      let value := d.panel.feed.value
      let i := { i with seen := some d.panel.feed.version }
      match i.output with
      | .log => { d with indicator := some i }.say [.indicatorUpdated value]
      | .file path =>
        let (files, ns) := Indicator.drive d.files path value
        ({ d with indicator := some i }.withFiles files).say ns
      | .record =>
        let showing := i.nextShowing
        let i := { i with plan := i.plan.tail, shows := i.shows ++ [(d.now, value)] }
        { d with
          indicator := some i
          panel.feed := d.panel.feed.publishAll showing.publishes }.say
          (if showing.panics then [.indicatorPanicked Indicator.panicReason] else [])

/-- The indicator shows until there is no news; nothing is published during a show that is not
planned, so one show more than are planned is enough. -/
def settleIndicator (d : Device) : Device :=
  let planned := (d.indicator.map (·.plan.length)).getD 0
  Nat.repeat showNews (planned + 2) d

/-! ### Time -/

/-- Every task does what is due now. -/
def settle (d : Device) : Device := d.settleFlusher.settleLine.settleIndicator

/-- A millisecond passes, and the wall clock reads what it does then. -/
def advance (d : Device) : Device :=
  { d with panel.latch.backing.clock.millis := d.now + 1 }

/-- Every task does what is due now, and a millisecond passes. -/
def tick (d : Device) : Device := d.settle.advance

/-- So many milliseconds pass. -/
def wait (d : Device) (millis : Nat) : Device := Nat.repeat tick millis d

/-- The device waits for a point in time; if that is past, it does not wait. -/
def waitUntil (d : Device) (time : Nat) : Device := d.wait (time - d.now)

/-! ### Start, restart and end -/

/-- A device with these tasks, started on a store. -/
def seed (b : Backing) (flusher : Option Flusher) (line : Option LinePoller)
    (indicator : Option Indicator) : Device :=
  ⟨.seed b, 0, flusher, line, indicator⟩

/-- **The device restarts**: its tasks are gone from one moment to the next, and it starts again on
the same store. -/
def reboot (d : Device) : Device where
  panel := { Panel.seed d.panel.latch.backing with
    notices := d.panel.notices ++ Latch.seedNotices d.panel.latch.backing }
  receiver := 0
  flusher := d.flusher.map fun f => { f with task := .unstarted }
  line := d.line.map fun l => { l with task := .unstarted, sampler := .start }
  indicator := d.indicator.map fun i => { i with seen := none }

/-- Which tasks take a tick that is due just as they are asked to stop, before they see that they
are.  A task waits for both at once, so it may. -/
structure Overtaking where
  flusher : Bool := false
  line : Bool := false
  deriving DecidableEq, Repr

/-- The flusher is asked to stop.  If a tick that is due now `overtakes`, the flusher does what is
due first; then it flushes once more if the latch is dirty. -/
def stopFlusher (d : Device) (overtakes : Bool := false) : Device :=
  let d := if overtakes then d.settleFlusher else d
  match d.flusher with
  | some f =>
    match f.task with
    | .due _ =>
      let panel := if d.panel.latch.cell.dirty then d.panel.flushOnce.2 else d.panel
      { d with panel, flusher := some { f with task := .ended } }.say [.flusherStopped]
    | _ => d
  | none => d

/-- The poller is asked to stop, and may take a sample that is due now first. -/
def stopLine (d : Device) (overtakes : Bool := false) : Device :=
  let d := if overtakes then d.settleLine else d
  match d.line with
  | some l =>
    match l.task with
    | .due _ => { d with line := some { l with task := .ended } }.say [.samplingStopped]
    | _ => d
  | none => d

/-- **All tasks are asked to stop**, and do; by default no tick overtakes. -/
def shutDown (d : Device) (overtaking : Overtaking := {}) : Device :=
  (d.stopFlusher overtaking.flusher).stopLine overtaking.line

/-- Why a task has failed, if it has. -/
def Task.failure? : Task → Option String
  | .failed reason => some reason
  | _ => none

/-- The failures of tasks. -/
def failures (d : Device) : List String :=
  (d.flusher.bind fun f => Task.failure? f.task).toList ++
    (d.line.bind fun l => Task.failure? l.task).toList

end Device

end TriggerLatch
