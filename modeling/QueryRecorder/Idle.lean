import QueryRecorder.Polling

/-!
An idle world: nothing happens in it but what the waiter does, and time passes only while the waiter
sleeps and while it writes to the log. No sleep is shorter than the grain of the clock, so that a
waiter that asks for no sleep at all also reaches its deadline, and a notice takes a nanosecond, so
that a look which passes over many error texts takes as many.
-/

namespace QueryRecorder

structure Idle (α : Type) where
  content : α
  now : Duration
  /-- The notices so far, the latest first. -/
  log : List Notice

namespace Idle

variable {α : Type}

def ofContent (content : α) : Idle α := ⟨content, .zero, []⟩

def look : StateM (Idle α) α := do
  let world ← get
  pure world.content

def note (notice : Notice) : StateM (Idle α) Unit :=
  modify fun world => { world with log := notice :: world.log, now := world.now + ⟨1⟩ }

def host (grain : Duration) : Host (Idle α) where
  now := do
    let world ← get
    pure world.now
  sleep length := modify fun world => { world with now := world.now + max length grain }
  log := note

/-- Enough rounds for a wait to end in an idle world. -/
def rounds (grain : Duration) (patience : Patience) : Nat :=
  patience.timeout.nanos / (max patience.pollInterval grain).nanos + 2

def notices (world : Idle α) : List Notice := world.log.reverse

end Idle

end QueryRecorder
