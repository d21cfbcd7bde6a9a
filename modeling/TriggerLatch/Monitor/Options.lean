import TriggerLatch.Monitor.Seconds
import TriggerLatch.Monitor.Settings

/-!
# Options of the monitor

The command line of the monitor names a device and the spans to use (`Options`), or it asks for
help or the version.  It is read from left to right (`Options.read`), and the first thing that ends
the reading decides.  A span that stands behind its option as a word of its own is looked at only
when the next word is, if that is a word the monitor knows.
-/

namespace TriggerLatch.Monitor

/-- An option that takes a number of seconds. -/
inductive SpanOption where
  | interval
  | slowAfter
  | timeout
  deriving DecidableEq, Repr

namespace SpanOption

/-- All of them. -/
def all : List SpanOption := [interval, slowAfter, timeout]

/-- The name, without the dashes in front. -/
def name : SpanOption → Text
  | interval => "interval".toList
  | slowAfter => "slow-after".toList
  | timeout => "timeout".toList

/-- The name with the dashes and the word that stands for its value. -/
def usage : SpanOption → String
  | interval => "--interval <INTERVAL>"
  | slowAfter => "--slow-after <SLOW_AFTER>"
  | timeout => "--timeout <TIMEOUT>"

/-- The number of seconds where none is given. -/
def standardSeconds : SpanOption → Nat
  | interval => 1
  | slowAfter => 3
  | timeout => 4

/-- The span where none is given. -/
def standard (o : SpanOption) : Binary64 :=
  (Binary64.ofRatio? o.standardSeconds 1).getD .zero

/-- The option with a name. -/
def ofName? (name : Text) : Option SpanOption := all.find? (·.name == name)

end SpanOption

/-- An option that asks for a text. -/
inductive TextOption where
  | help
  | version
  deriving DecidableEq, Repr

namespace TextOption

/-- Both of them. -/
def all : List TextOption := [help, version]

/-- The name, without the dashes in front. -/
def name : TextOption → Text
  | help => "help".toList
  | version => "version".toList

/-- The name of one letter. -/
def letter : TextOption → Char
  | help => 'h'
  | version => 'V'

/-- The option with a name. -/
def ofName? (name : Text) : Option TextOption := all.find? (·.name == name)

/-- The option with a name of one letter. -/
def ofLetter? (c : Char) : Option TextOption := all.find? (·.letter == c)

end TextOption

/-- What can be wrong with a command line. -/
inductive UsageError where
  | unexpectedArgument (word : Text)
  /-- An option that takes none has a value. -/
  | unexpectedValue (option : TextOption) (value : Text)
  | missingValue (option : SpanOption)
  | repeated (option : SpanOption)
  | invalidValue (option : SpanOption) (value : Text) (reason : Seconds.ReadError)
  deriving DecidableEq, Repr

/-- The text that reports it. -/
def UsageError.message : UsageError → String
  | unexpectedArgument word => "error: unexpected argument '" ++ String.ofList word ++ "' found"
  | unexpectedValue o value =>
    "error: unexpected value '" ++ String.ofList value ++ "' for '--" ++ String.ofList o.name ++
      "' found; no more were expected"
  | missingValue o => "error: a value is required for '" ++ o.usage ++ "' but none was supplied"
  | repeated o => "error: the argument '" ++ o.usage ++ "' cannot be used multiple times"
  | invalidValue o value reason =>
    "error: invalid value '" ++ String.ofList value ++ "' for '" ++ o.usage ++ "': " ++
      reason.message

/-- What ends the reading of a command line early. -/
inductive EarlyEnd where
  | text (option : TextOption)
  | error (error : UsageError)
  deriving DecidableEq, Repr

/-- A word of the command line. -/
inductive Word where
  /-- Two dashes: no option comes behind them. -/
  | separator
  | long (name : Text) (value : Option Text)
  | short (letter : Char)
  | plain (text : Text)
  deriving DecidableEq, Repr

/-- A long name, and the value behind an equals sign. -/
def Word.ofLong (s : Text) : Word :=
  .long (s.takeWhile (· != '=')) ((s.dropWhile (· != '=')).tail?)

/-- What a word is.  Of several letters behind a dash the first decides, since no option of one
letter takes a value and each of them ends the reading. -/
def Word.ofText : Text → Word
  | ['-', '-'] => .separator
  | '-' :: '-' :: r => .ofLong r
  | '-' :: c :: _ => .short c
  | s => .plain s

/-- What the command line has said so far. -/
structure Scan where
  address : Option Text
  spans : List (SpanOption × Binary64)
  /-- The last option, whose value is not looked at yet or still to come. -/
  pending : Option (SpanOption × Option Text)
  /-- The separator has come. -/
  separated : Bool
  deriving DecidableEq, Repr

namespace Scan

/-- Nothing has been said. -/
def start : Scan := ⟨none, [], none, false⟩

/-- The pending option is dealt with. -/
def settle (s : Scan) : Except EarlyEnd Scan :=
  match s.pending with
  | none => .ok s
  | some (o, none) => .error (.error (.missingValue o))
  | some (o, some value) =>
    if (s.spans.lookup o).isSome then .error (.error (.repeated o))
    else
      match Seconds.read value with
      | .ok x => .ok { s with spans := (o, x) :: s.spans, pending := none }
      | .error e => .error (.error (.invalidValue o value e))

/-- A word that is no option: the address, if there is none yet. -/
def stepPlain (s : Scan) (word : Text) : Except EarlyEnd Scan := do
  if s.address.isSome then .error (.error (.unexpectedArgument word))
  else
    let s ← s.settle
    .ok { s with address := some word }

/-- An option that asks for a text. -/
def stepText (s : Scan) (o : TextOption) : Except EarlyEnd Scan := do
  let _ ← s.settle
  .error (.text o)

/-- An option that takes a span, with its value or before it. -/
def stepSpan (s : Scan) (o : SpanOption) (value : Option Text) : Except EarlyEnd Scan := do
  let s ← s.settle
  let s := { s with pending := some (o, value) }
  if value.isSome then s.settle else .ok s

/-- An option with a long name. -/
def stepLong (s : Scan) (name : Text) (value : Option Text) : Except EarlyEnd Scan :=
  match SpanOption.ofName? name, TextOption.ofName? name, value with
  | some o, _, value => s.stepSpan o value
  | none, some o, none => s.stepText o
  | none, some o, some value => .error (.error (.unexpectedValue o value))
  | none, none, _ => .error (.error (.unexpectedArgument ('-' :: '-' :: name)))

/-- The next word. -/
def step (s : Scan) (word : Text) : Except EarlyEnd Scan :=
  if s.separated then s.stepPlain word
  else
    match Word.ofText word with
    | .separator => .ok { s with separated := true }
    | .long name value => s.stepLong name value
    | .short c =>
      match TextOption.ofLetter? c with
      | some o => s.stepText o
      | none => .error (.error (.unexpectedArgument ['-', c]))
    | .plain t =>
      match s.pending with
      | some (o, none) => .ok { s with pending := some (o, some t) }
      | _ => s.stepPlain t

end Scan

/-- What a command line asks the monitor to do. -/
structure Options where
  /-- The address of the device as it is given. -/
  address : Text
  interval : Binary64
  slowAfter : Binary64
  timeout : Binary64
  deriving DecidableEq, Repr

namespace Options

/-- What is said, and the standard for the rest; an address in the environment stands in for one
on the command line. -/
def ofScan (environment : Option Text) (s : Scan) : Options :=
  let span (o : SpanOption) := (s.spans.lookup o).getD o.standard
  ⟨s.address.getD (environment.getD BaseUrl.standard), span .interval, span .slowAfter,
    span .timeout⟩

/-- **The options on a command line**, or what ends its reading early. -/
def read (environment : Option Text) (words : List Text) : Except EarlyEnd Options := do
  let s ← words.foldlM Scan.step Scan.start
  let s ← s.settle
  .ok (ofScan environment s)

/-- The settings that the options stand for, unless a span is too long. -/
def settings? (o : Options) : Option Settings := do
  let pollInterval ← Duration.ofSeconds? o.interval
  let slowAfter ← Duration.ofSeconds? o.slowAfter
  let timeout ← Duration.ofSeconds? o.timeout
  some ⟨BaseUrl.normalise o.address, pollInterval, slowAfter, timeout⟩

end Options

end TriggerLatch.Monitor
