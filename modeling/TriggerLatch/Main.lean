import TriggerLatch.Monitor.Launch
import TriggerLatch.Monitor.Session

/-!
# The monitor's command line

Reads the command line and the environment, prints what the launch prints, and ends with its code.
A monitor that runs polls once and then resets the device at every line that asks for it, until its
input ends.  No network belongs to the program, so its device is one out of reach.
-/

namespace TriggerLatch.Monitor

/-- Prints some lines. -/
def printLines (lines : List Text) : IO Unit := lines.forM fun l => IO.println (String.ofList l)

/-- One action and its reports. -/
def actAloud (s : Session Unit) (a : Action) : IO (Session Unit) := do
  let (reports, s) := s.act Peer.unreachable a
  printLines (reports.map Report.display)
  return s

/-- Obeys the lines of the input until it ends. -/
partial def obey (input : IO.FS.Stream) (s : Session Unit) : IO Unit := do
  let line ← input.getLine
  if line.isEmpty then printLines closingLines
  else if asksForReset line.toList then obey input (← actAloud s .reset)
  else obey input s

/-- Carries out a launch. -/
def carryOut (launch : Launch) : IO UInt32 := do
  printLines launch.output
  match launch.error?, launch with
  | some e, _ => IO.eprintln e.message
  | none, .runs settings _ =>
    obey (← IO.getStdin) (← actAloud (.start settings ()) .poll)
  | none, _ => if launch.panics then IO.eprintln "a span is out of range"
  return launch.exitCode.toUInt32

end TriggerLatch.Monitor

open TriggerLatch

def main (args : List String) : IO UInt32 := do
  let environment ← IO.getEnv "DOORMON_URL"
  Monitor.carryOut (.ofCommandLine (environment.map String.toList) (args.map String.toList))
