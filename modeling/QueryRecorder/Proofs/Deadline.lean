import QueryRecorder.Call
import QueryRecorder.Condition
import QueryRecorder.Idle
import QueryRecorder.Proofs.Rounds

/-!
The deadline of a wait, where time may pass at any point of a round: during a look, before the clock is
read, and in a sleep that goes on for longer than asked. The clock is read after the look. So a wait
that is given up has seen its deadline pass, but its last look may have begun before it. This happens
only if the deadline falls within that look, and not if the look follows a sleep that was cut short.
-/

namespace QueryRecorder

namespace Duration

theorem le_iff (a b : Duration) : a ≤ b ↔ a.nanos ≤ b.nanos := Iff.rfl

@[simp] theorem nanos_add (a b : Duration) : (a + b).nanos = a.nanos + b.nanos := rfl

@[simp] theorem nanos_sub (a b : Duration) : (a - b).nanos = a.nanos - b.nanos := rfl

@[simp] theorem nanos_min (a b : Duration) : (min a b).nanos = min a.nanos b.nanos := rfl

end Duration

/-- What `time` tells of each world fits a clock: time does not go back, a reading shows the time at
some moment of the reading, and no sleep is shorter than asked for. -/
structure Timed {σ : Type} (host : Host σ) (criterion : Criterion σ) (time : σ → Duration) : Prop where
  looking : ∀ world, time world ≤ time (criterion.done.run world).2
  reading : ∀ world, time world ≤ (host.now.run world).1 ∧
    (host.now.run world).1 ≤ time (host.now.run world).2
  sleeping : ∀ world length, time world + length ≤ time ((host.sleep length).run world).2

namespace Wait

variable {σ : Type} (wait : Wait σ)

def deadline : Duration := wait.start + wait.patience.timeout

/-- Of a wait that was given up after the look with the number `last`, the first look being number 0. -/
structure Overran (time : σ → Duration) (first : σ) (last : Nat) : Prop where
  vain : wait.found (wait.worldAt last first) = false
  -- The deadline had come when the clock was read after the last look, and not after any other.
  reached : wait.deadline ≤ wait.shown (wait.worldAt last first)
  early : ∀ look, look < last → ¬ wait.deadline ≤ wait.shown (wait.worldAt look first)
  -- A last look that began too early had no sleep before it or the whole of a poll interval.
  uncut : ¬ wait.deadline ≤ time (wait.worldAt last first) → ∀ look, last = look + 1 →
    ¬ wait.patience.timeout - wait.elapsed (wait.worldAt look first) ≤ wait.patience.pollInterval
  -- If no time passes from the beginning of the last look to the reading of the clock after it, the
  -- last look began at the deadline or later.
  instant : wait.shown (wait.worldAt last first) ≤ time (wait.worldAt last first) →
    wait.deadline ≤ time (wait.worldAt last first)
  -- What holds from some moment on came too late for the last look.
  missed : ∀ moment, (∀ world, moment ≤ time world → wait.found world = true) →
    ¬ moment ≤ time (wait.worldAt last first)

section Timed

variable {wait} {time : σ → Duration} (timed : Timed wait.host wait.criterion time)

include timed

theorem shown_after (world : σ) : time world ≤ wait.shown world := by
  have looked := timed.looking world
  have read := (timed.reading (wait.looked world)).1
  exact Nat.le_trans looked read

theorem slept_after (world : σ) : wait.shown world + wait.pause world ≤ time (wait.slept world) := by
  have read := (timed.reading (wait.looked world)).2
  have slept := timed.sleeping (wait.read world) (wait.pause world)
  exact Nat.le_trans (Nat.add_le_add_right read _) slept

-- Time never goes back, so every look of a wait comes after its beginning.
theorem worldAt_after (round : Nat) (world : σ) : time world ≤ time (wait.worldAt round world) := by
  induction round generalizing world with
  | zero => exact Nat.le_refl _
  | succ round ih =>
      have shown := shown_after timed world
      have slept := slept_after timed world
      have later := ih (wait.slept world)
      simp only [Duration.le_iff, Duration.nanos_add] at shown slept later ⊢
      exact Nat.le_trans (by omega) later

theorem deadline_iff (world : σ) (begins : wait.start ≤ time world) :
    wait.deadline ≤ wait.shown world ↔ wait.patience.timeout ≤ wait.elapsed world := by
  have shown := shown_after timed world
  simp only [Duration.le_iff, deadline, elapsed, Duration.nanos_add, Duration.nanos_sub] at begins shown ⊢
  omega

-- A sleep that is cut short ends at the deadline.
theorem cut_short (world : σ) (begins : wait.start ≤ time world)
    (cut : wait.patience.timeout - wait.elapsed world ≤ wait.patience.pollInterval) :
    wait.deadline ≤ time (wait.slept world) := by
  have shown := shown_after timed world
  have slept := slept_after timed world
  simp only [Duration.le_iff, deadline, pause, elapsed, Duration.nanos_add, Duration.nanos_sub,
    Duration.nanos_min] at begins shown slept cut ⊢
  omega

theorem overran (first : σ) (last : Nat) (begins : wait.start ≤ time first)
    (before : wait.VainBefore last first) (vain : wait.found (wait.worldAt last first) = false)
    (out : wait.patience.timeout ≤ wait.elapsed (wait.worldAt last first)) :
    wait.Overran time first last := by
  have after (round : Nat) : wait.start ≤ time (wait.worldAt round first) :=
    Nat.le_trans begins (worldAt_after timed round first)
  have reached := (deadline_iff timed _ (after last)).mpr out
  constructor
  case vain => exact vain
  case reached => exact reached
  case early =>
    intro look inTime come
    exact (before look inTime).2 ((deadline_iff timed _ (after look)).mp come)
  case uncut =>
    rintro tooEarly look rfl cut
    apply tooEarly
    rw [worldAt_succ]
    exact cut_short timed _ (after look) cut
  case instant => exact fun still => Nat.le_trans reached still
  case missed =>
    intro moment holds came
    rw [holds _ came] at vain
    cases vain

end Timed

end Wait

namespace Idle

variable {K : Type} [DecidableEq K] [Outlined K]

theorem notes_after {α : Type} (notices : List Notice) (world : Idle α) :
    world.now ≤ ((notices.forM (@note α)).run world).2.now := by
  induction notices generalizing world with
  | nil => exact Nat.le_refl _
  | cons notice rest ih =>
      have later := ih ((@note α notice).run world).2
      have noted : world.now ≤ ((@note α notice).run world).2.now := Nat.le_succ _
      exact Nat.le_trans noted later

theorem host_sleeps {α : Type} (grain : Duration) (world : Idle α) (length : Duration) :
    world.now + length ≤ (((host grain).sleep length).run world).2.now :=
  Nat.add_le_add_left (Nat.le_max_left length.nanos grain.nanos) world.now.nanos

theorem timed (order : Arrangement String) (grain : Duration) (condition : Condition K) :
    Timed (host grain) (condition.criterion order (host grain) look) fun world => world.now := by
  constructor
  case looking => exact fun world => notes_after (condition.notices order world.content) world
  case reading => exact fun world => ⟨Nat.le_refl _, Nat.le_refl _⟩
  case sleeping => exact host_sleeps grain

/-- Holds from the given moment on, as far as a look tells that takes so long. -/
def since {α : Type} (moment pace : Duration) : Criterion (Idle α) where
  done := fun world => (decide (moment ≤ world.now), { world with now := world.now + pace })
  description := pure "too early"

theorem since_timed {α : Type} (grain moment pace : Duration) :
    Timed (host grain) (since (α := α) moment pace) fun world => world.now := by
  constructor
  case looking => exact fun world => Nat.le_add_right world.now.nanos pace.nanos
  case reading => exact fun world => ⟨Nat.le_refl _, Nat.le_refl _⟩
  case sleeping => exact host_sleeps grain

end Idle

namespace Polling

open Wait

/-- A wait that is given up has overrun its deadline. -/
theorem timedOut_overran {σ : Type} (host : Host σ) (criterion : Criterion σ) (patience : Patience)
    (time : σ → Duration) (timed : Timed host criterion time) (rounds : Nat) (world : σ) (polls : Nat)
    (timeout : Timeout)
    (ended : ((pollUntil host criterion patience rounds).run world).1 = .timedOut polls timeout) :
    ∃ last, polls = last + 1 ∧
      (begun host criterion patience world).Overran time (host.now.run world).2 last ∧
      patience.timeout ≤ timeout.elapsed := by
  rw [pollUntil_run] at ended
  rcases (begun host criterion patience world).run_cases rounds 0 (host.now.run world).2 with
    ⟨last, _, _, _, ends⟩ | ⟨last, _, before, vain, out, ends⟩ | ⟨_, ends⟩
  · rw [ends] at ended
    cases ended
  · rw [ends, gaveUp_verdict, Nat.zero_add] at ended
    cases ended
    exact ⟨last, rfl, overran timed _ last (timed.reading world).2 before vain out, out⟩
  · rw [ends] at ended
    cases ended

-- Time passes in the sleeps alone: looks at 0, 3 and 5 nanoseconds, the last of them at the deadline.
theorem timedOut_overran_idle :
    let order : Arrangement String := ⟨List.reverse, List.reverse_perm⟩
    let closing := (Condition.closed : Condition String).criterion order (Idle.host ⟨1⟩) Idle.look
    let world : Idle (Recorder String) := .ofContent (.withPatience "cq" .standard)
    ((pollUntil (Idle.host ⟨1⟩) closing ⟨⟨5⟩, ⟨3⟩⟩ 5).run world).1 =
        .timedOut 3 ⟨"never got close event for CQ cq", ⟨5⟩⟩ ∧
      ∃ last, 3 = last + 1 ∧
        (begun (Idle.host ⟨1⟩) closing ⟨⟨5⟩, ⟨3⟩⟩ world).Overran (fun world => world.now)
          ((Idle.host ⟨1⟩).now.run world).2 last := by
  intro order closing world
  have given : ((pollUntil (Idle.host ⟨1⟩) closing ⟨⟨5⟩, ⟨3⟩⟩ 5).run world).1 =
      .timedOut 3 ⟨"never got close event for CQ cq", ⟨5⟩⟩ := by decide
  obtain ⟨last, counted, overran, _⟩ := timedOut_overran (Idle.host ⟨1⟩) closing ⟨⟨5⟩, ⟨3⟩⟩
    (fun world => world.now) (Idle.timed order ⟨1⟩ .closed) 5 world _ _ given
  exact ⟨given, last, counted, overran⟩

-- A nanosecond is waited for an error text, and the search takes as long for the one text that it
-- passes over: it begins at once and is not made again. Nor is a look that takes two nanoseconds, at
-- what holds from the deadline on.
theorem timedOut_before_deadline :
    let order : Arrangement String := ⟨List.reverse, List.reverse_perm⟩
    let record := ((Recorder.withPatience "cq" .standard).receive (.error (.failure "a"))).1
    let search := (Condition.failed "b" : Condition String).criterion order (Idle.host ⟨1⟩) Idle.look
    let slow : Criterion (Idle Unit) := Idle.since ⟨1⟩ ⟨2⟩
    (Timed (Idle.host ⟨1⟩) search (fun world => world.now) ∧
      (∃ timeout, ((pollUntil (Idle.host ⟨1⟩) search ⟨⟨1⟩, ⟨1⟩⟩ 5).run (.ofContent record)).1 =
        .timedOut 1 timeout) ∧
      ¬ (begun (Idle.host ⟨1⟩) search ⟨⟨1⟩, ⟨1⟩⟩ (.ofContent record)).deadline ≤
        (Idle.ofContent record).now) ∧
    (Timed (Idle.host ⟨1⟩) slow (fun world => world.now) ∧
      (∃ timeout, ((pollUntil (Idle.host ⟨1⟩) slow ⟨⟨1⟩, ⟨1⟩⟩ 5).run (.ofContent ())).1 =
        .timedOut 1 timeout) ∧
      ∀ world, (begun (Idle.host ⟨1⟩) slow ⟨⟨1⟩, ⟨1⟩⟩ (.ofContent ())).deadline ≤ world.now →
        (slow.done.run world).1 = true) := by
  intro order record search slow
  constructor
  · refine ⟨Idle.timed order ⟨1⟩ (.failed "b"),
      ⟨⟨"never got create error for CQ cq messaged \"b\" (errors received: [\"a\"])", ⟨1⟩⟩, ?_⟩, ?_⟩
    · decide +kernel
    · decide
  · refine ⟨Idle.since_timed ⟨1⟩ ⟨1⟩ ⟨2⟩, ⟨⟨"too early", ⟨2⟩⟩, by decide⟩, ?_⟩
    intro world late
    exact decide_eq_true late

end Polling

end QueryRecorder
