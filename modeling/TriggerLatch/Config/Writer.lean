import TriggerLatch.Config.Basic
import TriggerLatch.Config.Variable

/-!
# Writing the configuration

`Config.toEnvironment` spells a configuration out: every variable holds the value that the
configuration has, as it is written.  What a configuration does not have is left unset.
-/

namespace TriggerLatch

namespace Trigger

/-- The line that edges come from, if they come from one. -/
def path? : Trigger → Option Path
  | signal => none
  | line path _ => some path

/-- How often it is sampled. -/
def period? : Trigger → Option Nat
  | signal => none
  | line _ period => some period

end Trigger

namespace Config

/-- **The environment that describes a configuration.** -/
def toEnvironment (c : Config) : Environment
  | .listenAddr => some c.listen.display
  | .stateDir => some c.stateDir
  | .storeNamespace => some c.key.namespaceName
  | .storeKey => some c.key.name
  | .flushInterval => some (Decimal.digits c.flushInterval)
  | .triggerLine => c.trigger.path?
  | .triggerPoll => c.trigger.period?.map Decimal.digits
  | .indicatorPath => c.indicatorPath
  | .linkInterface => c.linkInterface
  | .attachAttempts => some (Decimal.digits c.policy.attachAttempts)
  | .attachRetry => some (Decimal.digits c.policy.attachRetry)
  | .linkCheck => some (Decimal.digits c.policy.checkInterval)
  | .linkLostAfter => some (Decimal.digits c.policy.lostAfter)

end Config

end TriggerLatch
