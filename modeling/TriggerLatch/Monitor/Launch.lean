import TriggerLatch.Monitor.Command
import TriggerLatch.Monitor.Options
import TriggerLatch.Monitor.Report

/-!
# Starting the monitor

What a command line makes of the monitor (`Launch.ofCommandLine`), what is printed for it
(`Launch.output`), and the code it ends with (`Launch.exitCode`).  A span that is too long stops the
monitor before it says anything; polling without any pause is refused after it has introduced
itself.
-/

namespace TriggerLatch.Monitor

/-- The name and the version of the program. -/
def versionLine : Text := "doormon-monitor 0.1.0".toList

/-- The text of the help; it shows the address in the environment. -/
def helpLines (environment : Option Text) : List Text :=
  ["Latching trigger monitor with durable state and an HTTP status/reset surface".toList,
    [],
    "Usage: doormon-monitor [OPTIONS] [BASE_URL]".toList,
    [],
    "Arguments:".toList,
    "  [BASE_URL]  Device base URL, e.g. http://192.168.1.40:8080 or 192.168.1.40:8080 ".toList ++
      "[env: DOORMON_URL=".toList ++ environment.getD [] ++ "] [default: ".toList ++
      BaseUrl.standard ++ "]".toList,
    [],
    "Options:".toList,
    "      --interval <INTERVAL>      Seconds between status polls [default: 1]".toList,
    ("      --slow-after <SLOW_AFTER>  Responses slower than this many seconds are reported as " ++
      "slow [default: 3]").toList,
    "      --timeout <TIMEOUT>        Per-request timeout in seconds [default: 4]".toList,
    "  -h, --help                     Print help".toList,
    "  -V, --version                  Print version".toList]

/-- How the monitor introduces itself. -/
def openingLines (settings : Settings) (interval : Binary64) : List Text :=
  ["Monitoring doormon at ".toList ++ settings.baseUrl,
    "Polling /status every ".toList ++ interval.display ++
      "s. Press 'r' + Enter to reset. Ctrl+C to quit.".toList,
    []]

/-- How it takes its leave. -/
def closingLines : List Text := [[], "Bye.".toList]

/-- What a command line makes of the monitor. -/
inductive Launch where
  | refused (error : UsageError)
  /-- It prints a text. -/
  | informs (lines : List Text)
  /-- A span is too long. -/
  | overlong
  /-- There is no pause between polls. -/
  | breathless (opening : List Text)
  | runs (settings : Settings) (opening : List Text)
  deriving DecidableEq, Repr

namespace Launch

/-- The monitor with these options. -/
def ofOptions (o : Options) : Launch :=
  match o.settings? with
  | none => overlong
  | some settings =>
    let opening := openingLines settings o.interval
    if settings.pollInterval.totalNanos = 0 then breathless opening else runs settings opening

/-- **What a command line makes of the monitor**; an address may come from the environment. -/
def ofCommandLine (environment : Option Text) (words : List Text) : Launch :=
  match Options.read environment words with
  | .error (.error e) => refused e
  | .error (.text .help) => informs (helpLines environment)
  | .error (.text .version) => informs [versionLine]
  | .ok o => ofOptions o

/-- What is printed before the first poll. -/
def output : Launch → List Text
  | refused _ | overlong => []
  | informs lines | breathless lines | runs _ lines => lines

/-- What is reported as an error, where the command line is at fault. -/
def error? : Launch → Option UsageError
  | refused e => some e
  | _ => none

/-- The monitor ends in a panic. -/
def panics : Launch → Bool
  | overlong | breathless _ => true
  | _ => false

/-- The code that the program ends with; a monitor that runs ends well when it is asked to. -/
def exitCode : Launch → Nat
  | refused _ => 2
  | overlong | breathless _ => 101
  | informs _ | runs .. => 0

end Launch

end TriggerLatch.Monitor
