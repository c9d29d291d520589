import QueryRecorder.Operation
import QueryRecorder.Setting

/-!
Log records. Each kind of notice has a level and a text; a log that keeps notices up to a level
leaves the more detailed ones out. `Timeout` is the `WaitError` of a wait that was given up.
-/

namespace QueryRecorder

inductive Level
  | error
  | warn
  | info
  | debug
  | trace
  deriving DecidableEq

namespace Level

def all : List Level := [error, warn, info, debug, trace]

def name : Level → String
  | error => "ERROR"
  | warn => "WARN"
  | info => "INFO"
  | debug => "DEBUG"
  | trace => "TRACE"

def detail : Level → Nat
  | error => 1
  | warn => 2
  | info => 3
  | debug => 4
  | trace => 5

end Level

/-- A wait that was given up: what was awaited, and how long. -/
structure Timeout where
  description : String
  elapsed : Duration
  deriving DecidableEq

namespace Timeout

def message (timeout : Timeout) : String :=
  timeout.description ++ " (timed out after " ++ toString timeout.elapsed.millis ++ "ms)"

instance : Outlined Timeout where
  outline timeout :=
    .record "Timeout"
      [("description", outline timeout.description), ("elapsed", outline timeout.elapsed)] true

end Timeout

inductive Notice
  /-- An event arrived; `key` is the outline of its key. -/
  | delivered (query key : String) (base change : Operation) (total : UInt64)
  | failed (query message : String)
  | connected (query : String) (times : UInt64)
  | disconnected (query : String) (times : UInt64)
  | closed (query : String)
  /-- An error text was met in search of another. -/
  | passedOver (error : String)
  | gaveUp (description : String) (polls : Nat) (elapsed : Duration)
  | unsettled (timeout : Timeout)
  | report (text : String)
  | rejected (fault : InvalidMillis) (fallback : Duration)
  deriving DecidableEq

namespace Notice

def level : Notice → Level
  | delivered .. | failed .. | passedOver .. => .trace
  | connected .. | disconnected .. | closed .. | unsettled .. => .debug
  | report .. => .info
  | gaveUp .. | rejected .. => .warn

def text : Notice → String
  | delivered query key base change total =>
      "CqEvent for the CQ: " ++ query ++ "; Key=" ++ key ++ "; baseOp=" ++ base.logName ++
        "; queryOp=" ++ change.logName ++ "; totalEventCount=" ++ toString total.toNat
  | failed query message =>
      "CqEvent error for the CQ: " ++ query ++ "; message=" ++ Text.quoted message
  | connected query times => "CQ " ++ query ++ " connected (" ++ toString times.toNat ++ " times)"
  | disconnected query times =>
      "CQ " ++ query ++ " disconnected (" ++ toString times.toNat ++ " times)"
  | closed query => "CQ " ++ query ++ " closed"
  | passedOver error => "errors that exist: " ++ error
  | gaveUp description polls elapsed =>
      description ++ " (gave up after " ++ toString polls ++ " polls in " ++
        toString elapsed.millis ++ "ms)"
  | unsettled timeout => "wait_for_events returning after timeout: " ++ timeout.message
  | report text => text
  | rejected fault fallback =>
      fault.message ++ "; using default of " ++ toString fallback.millis ++ "ms"

/-- What the log shows of a notice. -/
def line (notice : Notice) : Level × String := (notice.level, notice.text)

-- Whether a log that goes down to the given level keeps the notice.
def isKept (limit : Level) (notice : Notice) : Bool := notice.level.detail ≤ limit.detail

end Notice

end QueryRecorder
