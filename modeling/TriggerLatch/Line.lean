import TriggerLatch.Files.Access
import TriggerLatch.Text.Quoted

/-!
# The trigger line

The trigger input is a line that rests high and is pulled low by the event of interest.  A
sample is the text of the line's value file; it is a level when its trimmed text is `0` or `1`
(`Level.ofText?`).  A `FallingEdge` detector keeps the last good level and reports the step from
high to low, so a line that is low from the start reports nothing.

A `Sampler` adds what happens around failed samples: they leave the detector alone, and only the
first of a row of them is worth a word.
-/

namespace TriggerLatch

/-- Why a sample is no level. -/
inductive LineError where
  /-- The value file could not be read. -/
  | unreadable (path : Path) (fault : Files.Fault)
  /-- The value file holds something else. -/
  | invalidLevel (text : Text)
  deriving DecidableEq, Repr

/-- The text that reports a failed sample. -/
def LineError.message : LineError → String
  | unreadable path fault =>
    "failed to read trigger line " ++ String.ofList path ++ ": " ++ fault.message
  | invalidLevel text => "invalid line level: " ++ Quoted.quote text

/-- A logic level. -/
inductive Level where
  | low
  | high
  deriving DecidableEq, Repr

namespace Level

/-- The digit a line shows at a level. -/
def digit : Level → Char
  | low => '0'
  | high => '1'

/-- A sample reads as a level when, trimmed, it is one digit; otherwise the trimmed text is
what was wrong with it. -/
def ofText (s : Text) : Except LineError Level :=
  let t := s.trim
  if t = [low.digit] then .ok low
  else if t = [high.digit] then .ok high
  else .error (.invalidLevel t)

theorem ofText_eq_ok_iff {s : Text} {l : Level} : ofText s = .ok l ↔ s.trim = [l.digit] := by
  unfold ofText
  cases l <;> grind [digit]

end Level

/-- What a detector remembers: the last good level, if there was one. -/
structure FallingEdge where
  last : Option Level
  deriving DecidableEq, Repr

namespace FallingEdge

/-- Before the first sample. -/
def start : FallingEdge := ⟨none⟩

/-- The level falls here. -/
def fallsAt (d : FallingEdge) (l : Level) : Bool := d.last == some .high && l == .low

/-- Each good level replaces the last one. -/
def observe (_ : FallingEdge) (l : Level) : FallingEdge := ⟨some l⟩

end FallingEdge

/-! ### Sampling -/

/-- One sample of a line: a level, or why there is none. -/
abbrev Sample := Except LineError Level

/-- A sample taken from a value file. -/
def Sample.take (files : Files.Tree) (path : Path) : Sample :=
  match Files.readText files path with
  | .error e => .error (.unreadable path e)
  | .ok text => Level.ofText text

/-- What is remembered from sample to sample. -/
structure Sampler where
  detector : FallingEdge
  /-- The last sample failed. -/
  failing : Bool
  deriving DecidableEq, Repr

namespace Sampler

/-- Before the first sample. -/
def start : Sampler := ⟨.start, false⟩

/-- After a sample; a failed one leaves the detector alone. -/
def step (s : Sampler) : Sample → Sampler
  | .ok l => ⟨s.detector.observe l, false⟩
  | .error _ => { s with failing := true }

/-- The line falls with this sample. -/
def firesOn (s : Sampler) : Sample → Bool
  | .ok l => s.detector.fallsAt l
  | .error _ => false

/-- The sample is the first good one after a failed one. -/
def recoversOn (s : Sampler) (x : Sample) : Bool := s.failing && x.isOk

/-- The sample is the first failed one of a row, and this is why it failed. -/
def warnsOn (s : Sampler) : Sample → Option LineError
  | .error e => if s.failing then none else some e
  | .ok _ => none

end Sampler

end TriggerLatch
