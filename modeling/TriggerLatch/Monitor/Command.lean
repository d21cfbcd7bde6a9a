import TriggerLatch.Text.Blank

/-!
# Typed commands

The monitor understands one command on its input: `r` or `reset`, in any mixture of ASCII
letter cases and with blanks around it.
-/

namespace TriggerLatch.Monitor

/-- The line asks for a reset. -/
def asksForReset (line : Text) : Bool :=
  let word := line.trim.map Char.toLower
  word == ['r'] || word == "reset".toList

end TriggerLatch.Monitor
