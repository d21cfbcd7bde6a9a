import TriggerLatch.Text.Blank

/-!
# Paths as text

A path is kept as it was written.  `Path.join` puts one path behind another: an absolute one
replaces what stood before it, and a slash comes between them only where there is none yet.
-/

namespace TriggerLatch

/-- A path, as written. -/
abbrev Path := Text

namespace Path

/-- The path starts at the root. -/
def isAbsolute : Path → Bool
  | '/' :: _ => true
  | _ => false

/-- The path is empty or ends in a slash, so a name can follow it directly. -/
def endsOpen (p : Path) : Bool := p.isEmpty || p.getLast? == some '/'

/-- `q` taken from `p`. -/
def join (p q : Path) : Path :=
  if isAbsolute q then q else if endsOpen p then p ++ q else p ++ '/' :: q

end Path

end TriggerLatch
