import TriggerLatch.Text.Blank

/-!
# Environment variables

The daemon is configured by thirteen variables.  A value counts without the blanks around it, and
one that is empty then counts as unset (`Environment.get?`).
-/

namespace TriggerLatch

/-- The variables that are looked at. -/
inductive Variable where
  | listenAddr
  | stateDir
  | storeNamespace
  | storeKey
  | flushInterval
  | triggerLine
  | triggerPoll
  | indicatorPath
  | linkInterface
  | attachAttempts
  | attachRetry
  | linkCheck
  | linkLostAfter
  deriving DecidableEq, Repr

namespace Variable

/-- The name of a variable in the environment. -/
def name : Variable → String
  | listenAddr => "DOORMON_LISTEN_ADDR"
  | stateDir => "DOORMON_STATE_DIR"
  | storeNamespace => "DOORMON_STORE_NAMESPACE"
  | storeKey => "DOORMON_STORE_KEY"
  | flushInterval => "DOORMON_FLUSH_INTERVAL_MS"
  | triggerLine => "DOORMON_TRIGGER_LINE"
  | triggerPoll => "DOORMON_TRIGGER_POLL_MS"
  | indicatorPath => "DOORMON_INDICATOR_PATH"
  | linkInterface => "DOORMON_LINK_INTERFACE"
  | attachAttempts => "DOORMON_ATTACH_ATTEMPTS"
  | attachRetry => "DOORMON_ATTACH_RETRY_MS"
  | linkCheck => "DOORMON_LINK_CHECK_MS"
  | linkLostAfter => "DOORMON_LINK_LOST_AFTER"

end Variable

/-- The raw value of each variable that is set. -/
abbrev Environment := Variable → Option Text

namespace Environment

/-- No variable is set. -/
def empty : Environment := fun _ => none

/-- The environment that a list of named values gives; names that are no variables are passed
over, and of two values for one name the first counts. -/
def ofList (values : List (String × Text)) : Environment := fun v => values.lookup v.name

/-- The trimmed value of a variable, if it is set and not blank. -/
def get? (env : Environment) (v : Variable) : Option Text :=
  (env v).bind fun raw => if raw.trim.isEmpty then none else some raw.trim

theorem get?_eq_some_iff {env : Environment} {v : Variable} {t : Text} :
    env.get? v = some t ↔ ∃ raw, env v = some raw ∧ raw.trim = t ∧ t ≠ [] := by
  unfold get?
  cases env v with
  | none => simp
  | some raw =>
    by_cases h : raw.trim = []
    · simp [h]
    · simp [h]
      grind

end Environment

end TriggerLatch
