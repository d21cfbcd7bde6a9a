import TriggerLatch.Files.Access

/-!
# Network links

A link is probed to see whether the network can be used.  The link of an interface is up when the
interface's state file, trimmed, reads `up`.
-/

namespace TriggerLatch

/-- Why a probe failed. -/
inductive LinkError where
  /-- The interface is in another state. -/
  | down (interface state : Text)
  /-- The state could not be read. -/
  | io (path : Path) (fault : Files.Fault)
  deriving DecidableEq, Repr

/-- The text that reports a failed probe. -/
def LinkError.message : LinkError → String
  | down interface state =>
    "link " ++ String.ofList interface ++ " is " ++ String.ofList state
  | io path fault =>
    "failed to read link state from " ++ String.ofList path ++ ": " ++ fault.message

namespace Link

/-- The state of a link that can be used. -/
def upState : Text := "up".toList

/-- The state file of an interface, below the root of the system's device files. -/
def stateFile (root : Path) (interface : Text) : Path :=
  Path.join (Path.join (Path.join root "class/net".toList) interface) "operstate".toList

/-- The link of an interface, probed. -/
def probe (files : Files.Tree) (root : Path) (interface : Text) : Except LinkError Unit :=
  let path := stateFile root interface
  match Files.readText files path with
  | .error e => .error (.io path e)
  | .ok text =>
    if text.trim = upState then .ok () else .error (.down interface text.trim)

theorem probe_eq_ok_iff {files : Files.Tree} {root : Path} {interface : Text} :
    probe files root interface = .ok () ↔
      ∃ text, Files.readText files (stateFile root interface) = .ok text ∧
        text.trim = upState := by
  simp only [probe]
  cases h : Files.readText files (stateFile root interface) with
  | error e => simp
  | ok text => by_cases hu : text.trim = upState <;> simp [hu]

end Link

end TriggerLatch
