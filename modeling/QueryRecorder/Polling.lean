import QueryRecorder.Patience

/-!
Waiting by polling. `pollUntil` follows `wait_until` and `wait_with`: the waiter looks, reads the clock
after a look in vain, and sleeps and looks again unless the deadline has passed. The last sleep is cut
short to end at the deadline.

The state `σ` is whatever else the waiter lives in: it may change while the waiter looks, reads the
clock or sleeps. A wait may go on for ever, so a run of it is cut off after a number of rounds and is
then unfinished.
-/

namespace QueryRecorder

/-- What a waiter needs of the world around it. -/
structure Host (σ : Type) where
  now : StateM σ Duration
  sleep : Duration → StateM σ Unit
  log : Notice → StateM σ Unit

structure Criterion (σ : Type) where
  done : StateM σ Bool
  description : StateM σ String

-- The outline of a criterion shows nothing of what it holds.
instance {σ : Type} : Outlined (Criterion σ) := ⟨fun _ => .record "Criterion" [] false⟩

inductive Verdict
  | met (polls : Nat)
  | timedOut (polls : Nat) (timeout : Timeout)
  | unfinished
  deriving DecidableEq

namespace Polling

variable {σ : Type}

def giveUp (host : Host σ) (criterion : Criterion σ) (polls : Nat) (elapsed : Duration) :
    StateM σ Verdict := do
  let description ← criterion.description
  host.log (.gaveUp description polls elapsed)
  pure (.timedOut polls ⟨description, elapsed⟩)

/-- Goes on from `polls` looks in vain, for `rounds` more looks at most. -/
def pollFrom (host : Host σ) (criterion : Criterion σ) (patience : Patience) (start : Duration) :
    (rounds polls : Nat) → StateM σ Verdict
  | 0, _ => pure .unfinished
  | rounds + 1, polls => do
      let done ← criterion.done
      if done then pure (.met (polls + 1))
      else
        let now ← host.now
        let elapsed := now - start
        if patience.timeout ≤ elapsed then giveUp host criterion (polls + 1) elapsed
        else
          host.sleep (min patience.pollInterval (patience.timeout - elapsed))
          pollFrom host criterion patience start rounds (polls + 1)

def pollUntil (host : Host σ) (criterion : Criterion σ) (patience : Patience) (rounds : Nat) :
    StateM σ Verdict := do
  let start ← host.now
  pollFrom host criterion patience start rounds 0

end Polling

end QueryRecorder
