import PullSecrets.Retry
import PullSecrets.Text.Decimal

/-!
# Settings

The settings of the controller and of its probe server come from environment variables. A
variable that is not set, or whose text is no number in the range of the setting, leaves the
setting at its default.

## Main facts

* `Config.ofEnvironment_concurrency_le`: the number of workers fits 16 bits.
-/

namespace PullSecrets

/-- The settings. -/
structure Config where
  /-- How many pullers are reconciled at the same time. -/
  concurrency : Nat := 5
  /-- How often a write is attempted. -/
  retryAttempts : Nat := 5
  /-- The pause between two attempts in milliseconds. -/
  retryPause : Nat := 10
  /-- After how many seconds a puller is looked at again. -/
  resyncSeconds : Nat := 600
  /-- The shortest waiting time after a failure in seconds. -/
  leastBackoff : Nat := 5
  /-- The longest waiting time after a failure in seconds. -/
  mostBackoff : Nat := 300
  /-- The number of the socket on which the probe server listens. -/
  socket : Nat := 8080
  /-- How many seconds the probe server has to start. -/
  startupSeconds : Nat := 10
  /-- How many milliseconds pass between two looks at the starting server. -/
  pollMilliseconds : Nat := 50
  deriving DecidableEq, Inhabited

namespace Config

/-- A setting of at most `limit` from the text of a variable. -/
def setting (text : Option String) (limit default : Nat) : Nat :=
  (text.bind (Text.Decimal.read limit)).getD default

/-- The settings from the variables of an environment. -/
def ofEnvironment (lookup : String → Option String) : Config :=
  let word (name : String) := setting (lookup name) (UInt64.size - 1)
  { concurrency := setting (lookup "CONCURRENCY") (UInt16.size - 1) 5
    retryAttempts := setting (lookup "CONFLICT_RETRY_ATTEMPTS") (UInt32.size - 1) 5
    retryPause := word "CONFLICT_RETRY_BACKOFF_MS" 10
    resyncSeconds := word "RESYNC_PERIOD_SECS" 600
    leastBackoff := word "ERROR_BACKOFF_MIN_SECS" 5
    mostBackoff := word "ERROR_BACKOFF_MAX_SECS" 300
    socket := setting (lookup "METRICS_PORT") (UInt16.size - 1) 8080
    startupSeconds := word "SERVER_STARTUP_TIMEOUT_SECS" 10
    pollMilliseconds := word "SERVER_POLL_INTERVAL_MS" 50 }

/-- How writes are retried. -/
def retryPolicy (c : Config) : RetryPolicy := ⟨c.retryAttempts, c.retryPause⟩

/-- The time until a puller is looked at again, in milliseconds. -/
def resyncMilliseconds (c : Config) : Nat := 1000 * c.resyncSeconds

/-- The time that the probe server has to start, in milliseconds. -/
def startupMilliseconds (c : Config) : Nat := 1000 * c.startupSeconds

theorem setting_le {text : Option String} {limit default : Nat} (h : default ≤ limit) :
    setting text limit default ≤ limit := by
  cases hread : text.bind (Text.Decimal.read limit) with
  | none => simpa [setting, hread] using h
  | some n =>
    obtain ⟨s, -, hs⟩ := Option.bind_eq_some_iff.1 hread
    simpa [setting, hread] using Text.Decimal.read_le hs

/-- The number of workers fits 16 bits. -/
theorem ofEnvironment_concurrency_le (lookup : String → Option String) :
    (ofEnvironment lookup).concurrency ≤ UInt16.size - 1 :=
  setting_le (by decide)

end Config

end PullSecrets
