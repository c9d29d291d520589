import QueryRecorder.Notice

/-!
How long a wait may take and how often it looks: `WaitConfig`. `from_env` (`ofEnvironment`) takes each
of the two lengths from a variable of its own by `millis_from_env` (`lengthOf`): an unset or garbled
variable silently gives the default, and a text that cannot be read gives the default with a warning.
-/

namespace QueryRecorder

structure Patience where
  timeout : Duration
  pollInterval : Duration
  deriving DecidableEq

namespace Patience

def timeoutVariable : String := "Q_CQ_MAX_WAIT_TIME"

def pollVariable : String := "Q_CQ_POLL_INTERVAL"

def standard : Patience := ⟨.ofMillis 20000, .ofMillis 50⟩

/-- The length that a setting gives, and the warning if it had to be replaced. -/
def lengthOf (name : String) (fallback : Duration) : Setting → Duration × List Notice
  | .unset | .garbled => (fallback, [])
  | .text value =>
      match parseMillis name value with
      | .ok length => (length, [])
      | .error fault => (fallback, [.rejected fault fallback])

def ofEnvironment (environment : String → Setting) : Patience × List Notice :=
  let timeout := lengthOf timeoutVariable standard.timeout (environment timeoutVariable)
  let poll := lengthOf pollVariable standard.pollInterval (environment pollVariable)
  (⟨timeout.1, poll.1⟩, timeout.2 ++ poll.2)

def withTimeout (patience : Patience) (timeout : Duration) : Patience :=
  { patience with timeout := timeout }

def withPollInterval (patience : Patience) (interval : Duration) : Patience :=
  { patience with pollInterval := interval }

instance : Outlined Patience where
  outline patience :=
    .record "WaitConfig"
      [("timeout", outline patience.timeout), ("poll_interval", outline patience.pollInterval)] true

end Patience

end QueryRecorder
