import QueryRecorder.Polling

/-!
Rounds of a wait. A round is a look, a reading of the clock and a sleep. What it finds depends only on
the world it begins in, and the worlds follow one another as long as the rounds are in vain. So a wait
is told by its first round that is not in vain: its look succeeds, or its clock has run out.
-/

namespace QueryRecorder

namespace Polling

variable {σ : Type} (host : Host σ) (criterion : Criterion σ)

theorem give_up_run (polls : Nat) (elapsed : Duration) (world : σ) :
    ∃ timeout last, (giveUp host criterion polls elapsed).run world = (.timedOut polls timeout, last) :=
  ⟨_, _, rfl⟩

-- One round, once the look and the clock in it have given their answers.
theorem round_run (patience : Patience) (start now : Duration) (rounds polls : Nat)
    (world later read : σ) (answer : Bool) (looked : criterion.done.run world = (answer, later))
    (told : host.now.run later = (now, read)) :
    (pollFrom host criterion patience start (rounds + 1) polls).run world =
      if answer then (.met (polls + 1), later)
      else if patience.timeout ≤ now - start then
        (giveUp host criterion (polls + 1) (now - start)).run read
      else (pollFrom host criterion patience start rounds (polls + 1)).run
        ((host.sleep (min patience.pollInterval (patience.timeout - (now - start)))).run read).2 := by
  rw [pollFrom, StateT.run_bind, looked]
  cases answer with
  | true => rfl
  | false =>
      change (do
        let now ← host.now
        if patience.timeout ≤ now - start then giveUp host criterion (polls + 1) (now - start)
        else
          host.sleep (min patience.pollInterval (patience.timeout - (now - start)))
          pollFrom host criterion patience start rounds (polls + 1)).run later = _
      rw [StateT.run_bind, told]
      change (if patience.timeout ≤ now - start then giveUp host criterion (polls + 1) (now - start)
        else do
          host.sleep (min patience.pollInterval (patience.timeout - (now - start)))
          pollFrom host criterion patience start rounds (polls + 1)).run read =
        if patience.timeout ≤ now - start then _ else _
      by_cases late : patience.timeout ≤ now - start
      · rw [if_pos late, if_pos late]
      · rw [if_neg late, if_neg late]
        rfl

end Polling

/-- A wait that has begun: the clock showed `start` then. -/
structure Wait (σ : Type) where
  host : Host σ
  criterion : Criterion σ
  patience : Patience
  start : Duration

namespace Wait

variable {σ : Type} (wait : Wait σ)

def begun (host : Host σ) (criterion : Criterion σ) (patience : Patience) (world : σ) : Wait σ :=
  ⟨host, criterion, patience, (host.now.run world).1⟩

/-- What the look of a round finds that begins in the given world. -/
def found (world : σ) : Bool := (wait.criterion.done.run world).1

def looked (world : σ) : σ := (wait.criterion.done.run world).2

def shown (world : σ) : Duration := (wait.host.now.run (wait.looked world)).1

def read (world : σ) : σ := (wait.host.now.run (wait.looked world)).2

def elapsed (world : σ) : Duration := wait.shown world - wait.start

def pause (world : σ) : Duration :=
  min wait.patience.pollInterval (wait.patience.timeout - wait.elapsed world)

def slept (world : σ) : σ := ((wait.host.sleep (wait.pause world)).run (wait.read world)).2

/-- The world that a round begins in, after so many rounds in vain. -/
def worldAt : Nat → σ → σ
  | 0, world => world
  | round + 1, world => worldAt round (wait.slept world)

def Vain (world : σ) : Prop :=
  wait.found world = false ∧ ¬ wait.patience.timeout ≤ wait.elapsed world

def VainBefore (round : Nat) (world : σ) : Prop :=
  ∀ earlier, earlier < round → wait.Vain (wait.worldAt earlier world)

/-- The rounds of the wait, so many at most, after so many looks in vain. -/
def run (rounds polls : Nat) (world : σ) : Verdict × σ :=
  (Polling.pollFrom wait.host wait.criterion wait.patience wait.start rounds polls).run world

def gaveUp (polls : Nat) (world : σ) : Verdict × σ :=
  (Polling.giveUp wait.host wait.criterion polls (wait.elapsed world)).run (wait.read world)

theorem gaveUp_verdict (polls : Nat) (world : σ) :
    (wait.gaveUp polls world).1 =
      .timedOut polls ⟨(wait.criterion.description.run (wait.read world)).1, wait.elapsed world⟩ := rfl

theorem pollUntil_run (host : Host σ) (criterion : Criterion σ) (patience : Patience) (rounds : Nat)
    (world : σ) :
    (Polling.pollUntil host criterion patience rounds).run world =
      (begun host criterion patience world).run rounds 0 (host.now.run world).2 := rfl

theorem run_round (rounds polls : Nat) (world : σ) :
    wait.run (rounds + 1) polls world =
      if wait.found world then (.met (polls + 1), wait.looked world)
      else if wait.patience.timeout ≤ wait.elapsed world then wait.gaveUp (polls + 1) world
      else wait.run rounds (polls + 1) (wait.slept world) :=
  Polling.round_run wait.host wait.criterion wait.patience wait.start (wait.shown world) rounds polls
    world (wait.looked world) (wait.read world) (wait.found world) rfl rfl

theorem worldAt_succ (round : Nat) (world : σ) :
    wait.worldAt (round + 1) world = wait.slept (wait.worldAt round world) := by
  induction round generalizing world with
  | zero => rfl
  | succ round ih => exact ih (wait.slept world)

theorem vainBefore_zero (world : σ) : wait.VainBefore 0 world := by
  intro earlier early
  omega

theorem vainBefore_succ (round : Nat) (world : σ) (vain : wait.Vain world)
    (later : wait.VainBefore round (wait.slept world)) : wait.VainBefore (round + 1) world := by
  intro earlier early
  cases earlier with
  | zero => exact vain
  | succ earlier => exact later earlier (Nat.lt_of_succ_lt_succ early)

/-- A wait ends with its first round that is not in vain, and goes on if there is none. -/
theorem run_cases (rounds polls : Nat) (world : σ) :
    (∃ last, last < rounds ∧ wait.VainBefore last world ∧
        wait.found (wait.worldAt last world) = true ∧
        wait.run rounds polls world =
          (.met (polls + last + 1), wait.looked (wait.worldAt last world))) ∨
      (∃ last, last < rounds ∧ wait.VainBefore last world ∧
        wait.found (wait.worldAt last world) = false ∧
        wait.patience.timeout ≤ wait.elapsed (wait.worldAt last world) ∧
        wait.run rounds polls world = wait.gaveUp (polls + last + 1) (wait.worldAt last world)) ∨
      (wait.VainBefore rounds world ∧
        wait.run rounds polls world = (.unfinished, wait.worldAt rounds world)) := by
  induction rounds generalizing polls world with
  | zero => exact .inr (.inr ⟨wait.vainBefore_zero world, rfl⟩)
  | succ rounds ih =>
      have round := wait.run_round rounds polls world
      cases found : wait.found world with
      | true =>
          left
          rw [found, if_pos rfl] at round
          exact ⟨0, Nat.succ_pos rounds, wait.vainBefore_zero world, found, round⟩
      | false =>
          rw [found, if_neg Bool.false_ne_true] at round
          by_cases late : wait.patience.timeout ≤ wait.elapsed world
          · right
            left
            rw [if_pos late] at round
            exact ⟨0, Nat.succ_pos rounds, wait.vainBefore_zero world, found, late, round⟩
          · rw [if_neg late] at round
            -- One more look in vain, and all that is known of the later rounds is told one later.
            have count (last : Nat) : polls + 1 + last + 1 = polls + (last + 1) + 1 := by omega
            have vain : wait.Vain world := ⟨found, late⟩
            rw [round]
            rcases ih (polls + 1) (wait.slept world) with
              ⟨last, inTime, before, met, ends⟩ | ⟨last, inTime, before, unmet, out, ends⟩ | ⟨before, ends⟩
            · left
              rw [count] at ends
              exact ⟨last + 1, Nat.succ_lt_succ inTime, wait.vainBefore_succ last world vain before, met,
                ends⟩
            · right
              left
              rw [count] at ends
              exact ⟨last + 1, Nat.succ_lt_succ inTime, wait.vainBefore_succ last world vain before, unmet,
                out, ends⟩
            · right
              right
              exact ⟨wait.vainBefore_succ rounds world vain before, ends⟩

theorem run_met (rounds polls : Nat) (world : σ) (found : wait.found world = true) :
    wait.run (rounds + 1) polls world = (.met (polls + 1), wait.looked world) := by
  rw [wait.run_round, found, if_pos rfl]

/-- What no look finds is waited for in vain, until the time is up or for ever. -/
theorem run_unmet (rounds polls : Nat) (world : σ) (never : ∀ later, wait.found later = false) :
    (∃ last, last < rounds ∧ wait.patience.timeout ≤ wait.elapsed (wait.worldAt last world) ∧
        wait.run rounds polls world = wait.gaveUp (polls + last + 1) (wait.worldAt last world)) ∨
      wait.run rounds polls world = (.unfinished, wait.worldAt rounds world) := by
  rcases wait.run_cases rounds polls world with
    ⟨last, _, _, found, _⟩ | ⟨last, inTime, _, _, out, ends⟩ | ⟨_, ends⟩
  · rw [never] at found
    cases found
  · exact .inl ⟨last, inTime, out, ends⟩
  · exact .inr ends

end Wait

end QueryRecorder
