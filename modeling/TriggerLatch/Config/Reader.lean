import TriggerLatch.Config.Basic
import TriggerLatch.Config.Variable
import TriggerLatch.Net.Endpoint.Reader
import TriggerLatch.Text.Quoted

/-!
# Reading the configuration

`Config.ofEnvironment` turns an environment into a configuration.  Every variable has a default; a
value that is there and does not read is an error, and so is a zero where a number is asked for.
Variables are looked at in a fixed order, and the first one that is wrong decides.
-/

namespace TriggerLatch

namespace Config

/-- Why a value does not read. -/
inductive Reason where
  | notAnAddress
  | number (error : Decimal.ReadError)
  deriving DecidableEq, Repr

/-- What is wrong with an environment. -/
inductive Error where
  /-- The value of a variable does not read. -/
  | invalid (var : Variable) (value : Text) (reason : Reason)
  /-- The value of a variable is zero. -/
  | zero (var : Variable)
  deriving DecidableEq, Repr

/-- The text of a reason. -/
def Reason.message : Reason → String
  | notAnAddress => "invalid socket address syntax"
  | number e => e.message

/-- The text that reports an error. -/
def Error.message : Error → String
  | invalid var value reason =>
    "invalid value " ++ Quoted.quote value ++ " for " ++ var.name ++ ": " ++ reason.message
  | zero var => var.name ++ " must be greater than zero"

/-- The largest number a variable may hold. -/
def maxNumber : Nat := 18446744073709551615

/-- The largest count. -/
def maxCount : Nat := 4294967295

/-- A positive number, `default` where the variable is unset. -/
def positive (env : Environment) (v : Variable) (default : Nat) : Except Error Nat :=
  match env.get? v with
  | none => .ok default
  | some t =>
    match Decimal.read maxNumber t with
    | .error e => .error (.invalid v t (.number e))
    | .ok 0 => .error (.zero v)
    | .ok n => .ok n

/-- A positive number that is a count; one too large is reported as it would be written. -/
def count (env : Environment) (v : Variable) (default : Nat) : Except Error Nat := do
  let n ← positive env v default
  if n ≤ maxCount then .ok n else .error (.invalid v (Decimal.digits n) (.number .tooLarge))

/-- The address listened on. -/
def listenOf (env : Environment) : Except Error Endpoint :=
  match env.get? .listenAddr with
  | none => .ok standardListen
  | some t =>
    match Endpoint.ofText? t with
    | some e => .ok e
    | none => .error (.invalid .listenAddr t .notAnAddress)

/-- The source of edges; the sampling period is looked at only where a line is set. -/
def triggerOf (env : Environment) : Except Error Trigger :=
  match env.get? .triggerLine with
  | none => .ok .signal
  | some path => do
    let period ← positive env .triggerPoll standardPollPeriod
    .ok (.line path period)

/-- **The configuration that an environment describes.** -/
def ofEnvironment (env : Environment) : Except Error Config := do
  let trigger ← triggerOf env
  let listen ← listenOf env
  let flushInterval ← positive env .flushInterval standardFlushInterval
  let attachAttempts ← count env .attachAttempts Policy.standard.attachAttempts
  let attachRetry ← positive env .attachRetry Policy.standard.attachRetry
  let checkInterval ← positive env .linkCheck Policy.standard.checkInterval
  let lostAfter ← count env .linkLostAfter Policy.standard.lostAfter
  .ok
    { listen, flushInterval, trigger
      stateDir := (env.get? .stateDir).getD standardStateDir
      key :=
        { namespaceName := (env.get? .storeNamespace).getD StoreKey.standard.namespaceName
          name := (env.get? .storeKey).getD StoreKey.standard.name }
      indicatorPath := env.get? .indicatorPath
      linkInterface := env.get? .linkInterface
      policy := { attachAttempts, attachRetry, checkInterval, lostAfter } }

end Config

end TriggerLatch
