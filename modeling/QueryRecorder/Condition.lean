import QueryRecorder.Expected
import QueryRecorder.Polling
import QueryRecorder.Recorder

/-!
Conditions on a record that can be waited for, what a wait in vain says about each, and the wait for
targets, which always returns. `Condition.await` is the waiters `wait_for_created` to
`wait_for_cqs_disconnected`, `Expected.await` is `wait_for_events`, and `Expected.survey` is the `stats`
that it compares. The record is looked at anew for every figure, so it may change between two looks of
one wait and between two figures of one copy.
-/

namespace QueryRecorder

inductive Condition (K : Type)
  | created (key : K)
  | destroyed (key : K)
  | invalidated (key : K)
  | updated (key : K)
  | totalEvents (n : UInt64)
  | closed
  | regionCleared
  | regionInvalidated
  | failed (message : String)
  | connected (n : UInt64)
  | disconnected (n : UInt64)
  deriving DecidableEq

namespace Condition

variable {K : Type}

def isMetBy [DecidableEq K] (recorder : Recorder K) : Condition K → Bool
  | created key => recorder.holds .created key
  | destroyed key => recorder.holds .destroyed key
  | invalidated key => recorder.holds .invalidated key
  | updated key => recorder.holds .updated key
  | totalEvents n => recorder.stats.total == n
  | closed => recorder.stats.closed
  | regionCleared => recorder.stats.regionCleared
  | regionInvalidated => recorder.stats.regionInvalidated
  | failed message => recorder.hasError message
  | connected n => recorder.stats.connects == n
  | disconnected n => recorder.stats.disconnects == n

def shortfall (subject identity : String) (expected received : UInt64) : String :=
  "Did not receive expected number of " ++ subject ++ " " ++ identity ++ " expected: " ++
    toString expected.toNat ++ " received: " ++ toString received.toNat

theorem shortfall_eq (opening subject identity : String) (expected received : UInt64)
    (joined : "Did not receive expected number of " ++ subject ++ " " = opening) :
    shortfall subject identity expected received = opening ++ identity ++ " expected: " ++
      toString expected.toNat ++ " received: " ++ toString received.toNat := by
  unfold shortfall
  rw [joined]

def description [Outlined K] (order : Arrangement String) (recorder : Recorder K) :
    Condition K → String
  | created key => "never got create event for CQ " ++ recorder.identity ++ " key " ++ shown key
  | destroyed key =>
      "never got destroy event for key " ++ shown key ++ " in CQ " ++ recorder.identity
  | invalidated key =>
      "never got invalidate event for CQ " ++ recorder.identity ++ " key " ++ shown key
  | updated key => "never got update event for CQ " ++ recorder.identity ++ " key " ++ shown key
  | totalEvents n => shortfall "events" recorder.identity n recorder.stats.total
  | closed => "never got close event for CQ " ++ recorder.identity
  | regionCleared => "never got region clear event for CQ " ++ recorder.identity
  | regionInvalidated => "never got region invalidate event for CQ " ++ recorder.identity
  | failed message =>
      "never got create error for CQ " ++ recorder.identity ++ " messaged " ++ shown message ++
        " (errors received: " ++ shown (recorder.listedErrors order) ++ ")"
  | connected n => shortfall "calls to cqs connected" recorder.identity n recorder.stats.connects
  | disconnected n =>
      shortfall "calls to cqs disconnected" recorder.identity n recorder.stats.disconnects

/-- What one look for the condition logs. -/
def notices (order : Arrangement String) (recorder : Recorder K) : Condition K → List Notice
  | failed message => (recorder.passedOver order message).map .passedOver
  | _ => []

variable {σ : Type} [DecidableEq K] [Outlined K]

def criterion (order : Arrangement String) (host : Host σ) (look : StateM σ (Recorder K))
    (condition : Condition K) : Criterion σ where
  done := do
    let recorder ← look
    (condition.notices order recorder).forM host.log
    pure (condition.isMetBy recorder)
  description := do
    let recorder ← look
    pure (condition.description order recorder)

def await (order : Arrangement String) (host : Host σ) (look : StateM σ (Recorder K))
    (condition : Condition K) (patience : Patience) (rounds : Nat) : StateM σ Verdict :=
  Polling.pollUntil host (condition.criterion order host look) patience rounds

end Condition

namespace Expected

variable {K σ : Type}

/-- A copy of the figures, each read at a look of its own. -/
def survey (look : StateM σ (Recorder K)) : StateM σ Stats :=
  Reading.all.foldlM (fun sheet reading => do
    let recorder ← look
    pure (reading.copy recorder.stats sheet)) .zero

def description (identity : String) (expected : Expected) (stats : Stats) : String :=
  "events for CQ " ++ identity ++ " did not settle: " ++
    ", ".intercalate ((expected.mismatches stats).map Mismatch.text)

def criterion (look : StateM σ (Recorder K)) (identity : String) (expected : Expected) :
    Criterion σ where
  done := do
    let stats ← survey look
    pure (expected.isMetBy stats)
  description := do
    let stats ← survey look
    pure (expected.description identity stats)

/-- Returns in any case once the wait has ended; a wait in vain is only logged. -/
def await (host : Host σ) (look : StateM σ (Recorder K)) (identity : String) (expected : Expected)
    (patience : Patience) (rounds : Nat) : StateM σ Verdict := do
  let verdict ← Polling.pollUntil host (expected.criterion look identity) patience rounds
  match verdict with
  | .timedOut polls timeout => do
      host.log (.unsettled timeout)
      pure (.timedOut polls timeout)
  | other => pure other

end Expected

end QueryRecorder
