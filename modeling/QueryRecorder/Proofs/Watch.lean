import QueryRecorder.Condition
import QueryRecorder.Proofs.Rounds
import QueryRecorder.Proofs.Turns

/-!
Waiting while others deliver. A watch is a waiter beside a floor. Which turns the workers take before
each of its looks, and what its clock shows at each reading, is up to the circumstances: nothing is
assumed of them, not even that the clock goes forward.
-/

namespace QueryRecorder

variable {K : Type}

/-- The verdict that a wait has to give after `polls` looks in vain, if `metAt` tells at which looks
the condition is met and there are looks for so many rounds. -/
def Verdict.Fits (metAt : Nat → Bool) (polls rounds : Nat) : Verdict → Prop
  | .met last => polls < last ∧ metAt last = true ∧
      ∀ earlier, polls < earlier → earlier < last → metAt earlier = false
  | .timedOut last _ => polls < last ∧ ∀ earlier, polls < earlier → earlier ≤ last → metAt earlier = false
  | .unfinished => ∀ earlier, polls < earlier → earlier ≤ polls + rounds → metAt earlier = false

theorem Verdict.fits_later (metAt : Nat → Bool) (polls rounds : Nat) (verdict : Verdict)
    (vain : metAt (polls + 1) = false) (fits : verdict.Fits metAt (polls + 1) rounds) :
    verdict.Fits metAt polls (rounds + 1) := by
  have first (earlier : Nat) (after : polls < earlier) : earlier = polls + 1 ∨ polls + 1 < earlier := by
    omega
  cases verdict with
  | met last =>
      obtain ⟨later, met, before⟩ := fits
      refine ⟨by omega, met, ?_⟩
      intro earlier after early
      rcases first earlier after with rfl | beyond
      · exact vain
      · exact before earlier beyond early
  | timedOut last timeout =>
      obtain ⟨later, before⟩ := fits
      refine ⟨by omega, ?_⟩
      intro earlier after early
      rcases first earlier after with rfl | beyond
      · exact vain
      · exact before earlier beyond early
  | unfinished =>
      intro earlier after early
      rcases first earlier after with rfl | beyond
      · exact vain
      · exact fits earlier beyond (by omega)

def Verdict.polls? : Verdict → Option Nat
  | .met polls => some polls
  | .timedOut polls _ => some polls
  | .unfinished => none

theorem Verdict.Fits.ended {metAt : Nat → Bool} {rounds : Nat} {verdict : Verdict}
    (fits : verdict.Fits metAt 0 rounds) (polls : Nat) (ends : verdict.polls? = some polls) :
    1 ≤ polls ∧ (verdict = .met polls ↔ metAt polls = true) ∧
      ∀ earlier, 1 ≤ earlier → earlier < polls → metAt earlier = false := by
  cases verdict with
  | met last =>
      cases ends
      obtain ⟨begun, met, before⟩ := fits
      exact ⟨begun, ⟨fun _ => met, fun _ => rfl⟩, before⟩
  | timedOut last timeout =>
      cases ends
      obtain ⟨begun, before⟩ := fits
      refine ⟨begun, ⟨nofun, ?_⟩, ?_⟩
      · intro met
        rw [before polls begun (Nat.le_refl polls)] at met
        cases met
      · intro earlier after early
        exact before earlier after (Nat.le_of_lt early)
  | unfinished => cases ends

structure Circumstances where
  turns : Nat → List Nat
  clock : Nat → Duration

def Circumstances.upTo (circumstances : Circumstances) (looks : Nat) : List Nat :=
  (List.range looks).flatMap circumstances.turns

theorem Circumstances.upTo_succ (circumstances : Circumstances) (looks : Nat) :
    circumstances.upTo (looks + 1) = circumstances.upTo looks ++ circumstances.turns looks := by
  simp [upTo, List.range_succ]

structure Watch (K : Type) where
  floor : Floor K
  looks : Nat
  readings : Nat
  log : List Notice

namespace Watch

def onto (floor : Floor K) : Watch K := ⟨floor, 0, 0, []⟩

@[simp] theorem onto_floor (floor : Floor K) : (onto floor).floor = floor := rfl

def note (watch : Watch K) (notices : List Notice) : Watch K :=
  { watch with log := watch.log ++ notices }

def host (circumstances : Circumstances) : Host (Watch K) where
  now := fun watch =>
    (circumstances.clock watch.readings, { watch with readings := watch.readings + 1 })
  sleep := fun _ => pure ()
  log := fun notice watch => ((), watch.note [notice])

theorem log_all (circumstances : Circumstances) (notices : List Notice) (watch : Watch K) :
    (notices.forM (host (K := K) circumstances).log).run watch = ((), watch.note notices) := by
  induction notices generalizing watch with
  | nil =>
      have same : watch.note [] = watch := by simp [note]
      rw [same]
      rfl
  | cons notice rest ih =>
      have later := ih (watch.note [notice])
      simp only [note, List.append_assoc, List.singleton_append] at later
      exact later

variable [DecidableEq K] [Outlined K] (order : Arrangement String) (circumstances : Circumstances)
  (condition : Condition K) (patience : Patience)

def look : StateM (Watch K) (Recorder K) := fun watch =>
  let floor := watch.floor.run (circumstances.turns watch.looks)
  (floor.recorder, { watch with floor := floor, looks := watch.looks + 1 })

def await (rounds : Nat) (watch : Watch K) : Verdict × Watch K :=
  (condition.await order (host circumstances) (look circumstances) patience rounds).run watch

/-- The rounds of a wait that started when the clock showed `start`, after so many looks in vain. -/
def poll (start : Duration) (rounds polls : Nat) (watch : Watch K) : Verdict × Watch K :=
  (Polling.pollFrom (host circumstances)
    (condition.criterion order (host circumstances) (look circumstances)) patience start rounds
      polls).run watch

-- One look reads the floor as the turns before it have left it.
theorem look_for (watch : Watch K) :
    ∃ later, (condition.criterion order (host circumstances) (look circumstances)).done.run watch =
        (condition.isMetBy (watch.floor.run (circumstances.turns watch.looks)).recorder, later) ∧
      later.floor = watch.floor.run (circumstances.turns watch.looks) ∧
      later.looks = watch.looks + 1 := by
  let floor := watch.floor.run (circumstances.turns watch.looks)
  let seen : Watch K := { watch with floor := floor, looks := watch.looks + 1 }
  have logged := log_all circumstances (condition.notices order floor.recorder) seen
  refine ⟨seen.note (condition.notices order floor.recorder), ?_, rfl, rfl⟩
  change (do
    (condition.notices order floor.recorder).forM (host (K := K) circumstances).log
    pure (condition.isMetBy floor.recorder) : StateM (Watch K) Bool).run seen = _
  rw [StateT.run_bind, logged]
  rfl

-- What one round of a wait comes to: success, giving up, or a sleep and another round.
theorem poll_cases (start : Duration) (rounds polls : Nat) (watch : Watch K) :
    ∃ later, later.floor = watch.floor.run (circumstances.turns watch.looks) ∧
      later.looks = watch.looks + 1 ∧
      ((condition.isMetBy later.floor.recorder = true ∧
          poll order circumstances condition patience start (rounds + 1) polls watch =
            (.met (polls + 1), later)) ∨
        (condition.isMetBy later.floor.recorder = false ∧ ∃ timeout last,
          poll order circumstances condition patience start (rounds + 1) polls watch =
            (.timedOut (polls + 1) timeout, last)) ∨
        (condition.isMetBy later.floor.recorder = false ∧
          poll order circumstances condition patience start (rounds + 1) polls watch =
            poll order circumstances condition patience start rounds (polls + 1) later)) := by
  obtain ⟨later, looked, floor, looks⟩ := look_for order circumstances condition watch
  rw [← floor] at looked
  let read : Watch K := { later with readings := later.readings + 1 }
  have round := Polling.round_run (host circumstances)
    (condition.criterion order (host circumstances) (look circumstances)) patience start
    (circumstances.clock later.readings) rounds polls watch later read _ looked rfl
  cases met : condition.isMetBy later.floor.recorder with
  | true =>
      rw [met] at round
      exact ⟨later, floor, looks, .inl ⟨met, round⟩⟩
  | false =>
      rw [met] at round
      refine ⟨read, floor, looks, .inr ?_⟩
      -- The clock decides whether the wait goes on, but not what the next look finds.
      by_cases late : patience.timeout ≤ circumstances.clock later.readings - start
      · left
        obtain ⟨timeout, last, gave⟩ := Polling.give_up_run (host circumstances)
          (condition.criterion order (host circumstances) (look circumstances)) (polls + 1)
          (circumstances.clock later.readings - start) read
        refine ⟨met, timeout, last, ?_⟩
        rw [← gave]
        exact round.trans (if_pos late)
      · right
        exact ⟨met, round.trans (if_neg late)⟩

/-- The verdict of a wait is that of the first look at which the condition is met, if it comes to it. -/
theorem poll_fits (start : Duration) (floor : Floor K) (rounds polls : Nat) (watch : Watch K)
    (reached : watch.floor = floor.run (circumstances.upTo polls)) (counted : watch.looks = polls) :
    (poll order circumstances condition patience start rounds polls watch).1.Fits
        (fun look => condition.isMetBy (floor.run (circumstances.upTo look)).recorder) polls rounds ∧
      ∀ last, (poll order circumstances condition patience start rounds polls watch).1 = .met last →
        (poll order circumstances condition patience start rounds polls watch).2.floor =
          floor.run (circumstances.upTo last) := by
  -- What the induction keeps is that the floor has seen just the turns up to the last look.
  induction rounds generalizing polls watch with
  | zero =>
      constructor
      · intro earlier after early
        omega
      · intro last met
        cases met
  | succ rounds ih =>
      obtain ⟨later, onto, looks, round⟩ :=
        poll_cases order circumstances condition patience start rounds polls watch
      have here : later.floor = floor.run (circumstances.upTo (polls + 1)) := by
        rw [onto, reached, counted, ← Floor.run_append, ← Circumstances.upTo_succ]
      rw [here] at round
      rcases round with ⟨met, ends⟩ | ⟨vain, timeout, last, ends⟩ | ⟨vain, goes⟩
      · rw [ends]
        refine ⟨⟨Nat.lt_succ_self polls, met, ?_⟩, ?_⟩
        · intro earlier after early
          omega
        · rintro last ⟨⟩
          exact here
      · rw [ends]
        refine ⟨⟨Nat.lt_succ_self polls, ?_⟩, ?_⟩
        · intro earlier after early
          have same : earlier = polls + 1 := by omega
          rw [same]
          exact vain
        · rintro last ⟨⟩
      · rw [goes]
        obtain ⟨fits, ended⟩ := ih (polls + 1) later here (by rw [looks, counted])
        exact ⟨Verdict.fits_later _ polls rounds _ vain fits, ended⟩

theorem await_fits (rounds : Nat) (floor : Floor K) :
    (await order circumstances condition patience rounds (onto floor)).1.Fits
        (fun look => condition.isMetBy (floor.run (circumstances.upTo look)).recorder) 0 rounds ∧
      ∀ last, (await order circumstances condition patience rounds (onto floor)).1 = .met last →
        (await order circumstances condition patience rounds (onto floor)).2.floor =
          floor.run (circumstances.upTo last) :=
  poll_fits order circumstances condition patience (circumstances.clock 0) floor rounds 0
    { onto floor with readings := 1 } rfl rfl

-- A wait for what is met at its first look takes one look.
theorem await_met (rounds : Nat) (floor : Floor K)
    (met : condition.isMetBy (floor.run (circumstances.turns 0)).recorder = true) :
    (await order circumstances condition patience (rounds + 1) (onto floor)).1 = .met 1 := by
  let begun : Watch K := { onto floor with readings := 1 }
  have waits : await order circumstances condition patience (rounds + 1) (onto floor) =
      poll order circumstances condition patience (circumstances.clock 0) (rounds + 1) 0 begun := rfl
  obtain ⟨later, reached, _, round⟩ :=
    poll_cases order circumstances condition patience (circumstances.clock 0) rounds 0 begun
  have here : later.floor = floor.run (circumstances.turns 0) := reached
  rw [here] at round
  rcases round with ⟨_, ends⟩ | ⟨vain, _⟩ | ⟨vain, _⟩
  · rw [waits, ends]
  · rw [met] at vain
    cases vain
  · rw [met] at vain
    cases vain

end Watch

/-- What a lasting condition waits for. A count may pass by the one awaited, so it does not last. -/
def Condition.mark? : Condition K → Option (Mark K)
  | .created key => some (.key .created key)
  | .destroyed key => some (.key .destroyed key)
  | .invalidated key => some (.key .invalidated key)
  | .updated key => some (.key .updated key)
  | .closed => some (.flag .closed)
  | .regionCleared => some (.flag .regionCleared)
  | .regionInvalidated => some (.flag .regionInvalidated)
  | .failed message => some (.error message)
  | .totalEvents _ | .connected _ | .disconnected _ => none

/-- Some step put the mark on record, and no step after it took it off. -/
def Mark.Decided [DecidableEq K] (mark : Mark K) (steps : List (Step K)) : Prop :=
  ∃ before step after, steps = before ++ step :: after ∧ mark.setAt step = true ∧
    ∀ later ∈ after, mark.clearedAt later = false

variable [DecidableEq K] [Outlined K]

omit [Outlined K] in
theorem Condition.isMetBy_mark (condition : Condition K) (mark : Mark K)
    (lasting : condition.mark? = some mark) (recorder : Recorder K) :
    condition.isMetBy recorder = mark.isOn recorder := by
  cases condition <;> simp only [mark?, Option.some.injEq, reduceCtorEq] at lasting <;> subst lasting <;> rfl

namespace Floor

theorem run_decided (name : String) (user : Option String) (patience : Patience)
    (threads : List (List (Call K))) (schedule : List Nat) (mark : Mark K) :
    mark.isOn ((ofThreads name user patience threads).run schedule).recorder = true ↔
      mark.Decided ((ofThreads name user patience threads).made schedule) := by
  rw [(run_course _ schedule).isOn mark (run_spares name user patience threads schedule),
    ofThreads_recorder, Recorder.unused_isOn]
  exact latch_iff mark.setAt mark.clearedAt _

-- Unless a reset comes between, what is on record stays there.
theorem run_stays (floor : Floor K) (schedule : List Nat) (mark : Mark K)
    (on : mark.isOn floor.recorder = true)
    (spares : ∀ step ∈ floor.made schedule, step.sparesRegions = true)
    (unreset : ∀ step ∈ floor.made schedule, step.isReset = false) :
    mark.isOn (floor.run schedule).recorder = true := by
  have stays : ∀ step ∈ floor.made schedule, mark.clearedAt step = false :=
    fun step member => reset_clears mark step (unreset step member)
  rw [(run_course floor schedule).isOn mark spares, on, latch_never_off _ _ _ _ stays, Bool.true_or]

end Floor

/-- What a wait that begins after the turns of `prior` tells of the steps made from `start` on: those
made before its last look decide its verdict, and those made before an earlier look did not. -/
structure Watch.Judges (start : Floor K) (prior : List Nat) (circumstances : Circumstances)
    (condition : Condition K) (mark : Mark K) (rounds : Nat) (outcome : Verdict × Watch K) : Prop where
  decided : ∀ polls, outcome.1.polls? = some polls → 1 ≤ polls ∧
    (outcome.1 = .met polls ↔ mark.Decided (start.made (prior ++ circumstances.upTo polls)))
  first : ∀ polls, outcome.1.polls? = some polls → ∀ poll, 1 ≤ poll → poll < polls →
    ¬ mark.Decided (start.made (prior ++ circumstances.upTo poll))
  unfinished : outcome.1 = .unfinished → ∀ poll, 1 ≤ poll → poll ≤ rounds →
    ¬ mark.Decided (start.made (prior ++ circumstances.upTo poll))
  reached : ∀ polls, outcome.1 = .met polls →
    outcome.2.floor = start.run (prior ++ circumstances.upTo polls)
  -- A further wait in the same run, after turns in which nothing is reset.
  again : ∀ polls, outcome.1 = .met polls → ∀ (between : List Nat) (later : Circumstances),
    (∀ step ∈ outcome.2.floor.made (between ++ later.turns 0), step.isReset = false) →
    ∀ (order : Arrangement String) (patience : Patience) (more : Nat),
      (await order later condition patience (more + 1) (onto (outcome.2.floor.run between))).1 = .met 1

namespace Watch

theorem await_judges (name : String) (user : Option String) (patience limits : Patience)
    (threads : List (List (Call K))) (prior : List Nat) (order : Arrangement String)
    (circumstances : Circumstances) (condition : Condition K) (mark : Mark K)
    (lasting : condition.mark? = some mark) (rounds : Nat) :
    Judges (.ofThreads name user patience threads) prior circumstances condition mark rounds
      (await order circumstances condition limits rounds
        (onto ((Floor.ofThreads name user patience threads).run prior))) := by
  obtain ⟨fits, reached⟩ := await_fits order circumstances condition limits rounds
    ((Floor.ofThreads name user patience threads).run prior)
  generalize await order circumstances condition limits rounds
    (onto ((Floor.ofThreads name user patience threads).run prior)) = outcome at fits reached ⊢
  have seen (look : Nat) : condition.isMetBy (((Floor.ofThreads name user patience threads).run prior).run
        (circumstances.upTo look)).recorder = true ↔
      mark.Decided ((Floor.ofThreads name user patience threads).made
        (prior ++ circumstances.upTo look)) := by
    rw [condition.isMetBy_mark mark lasting, ← Floor.run_append]
    exact Floor.run_decided name user patience threads _ mark
  have vain (look : Nat) (unmet : condition.isMetBy
        (((Floor.ofThreads name user patience threads).run prior).run
          (circumstances.upTo look)).recorder = false) :
      ¬ mark.Decided ((Floor.ofThreads name user patience threads).made
        (prior ++ circumstances.upTo look)) := by
    intro decided
    rw [(seen look).mpr decided] at unmet
    cases unmet
  constructor
  case decided =>
    intro polls ends
    obtain ⟨begun, met, _⟩ := fits.ended polls ends
    exact ⟨begun, met.trans (seen polls)⟩
  case first =>
    intro polls ends look begun early
    obtain ⟨_, _, before⟩ := fits.ended polls ends
    exact vain look (before look begun early)
  case unfinished =>
    intro going look begun inTime
    rw [going] at fits
    exact vain look (fits look begun (by omega))
  case reached =>
    intro polls met
    rw [reached polls met, ← Floor.run_append]
  case again =>
    intro polls met between later unreset listing waits more
    have ended : outcome.2.floor = (Floor.ofThreads name user patience threads).run
        (prior ++ circumstances.upTo polls) := by
      rw [reached polls met, ← Floor.run_append]
    have on : mark.isOn outcome.2.floor.recorder = true := by
      have ends : outcome.1.polls? = some polls := by rw [met]; rfl
      obtain ⟨_, answer, _⟩ := fits.ended polls ends
      rw [ended, Floor.run_decided, ← seen]
      exact answer.mp met
    -- The steps since then are steps of the same threads, and none of them is part of a reset.
    have spares : ∀ step ∈ outcome.2.floor.made (between ++ later.turns 0),
        step.sparesRegions = true := by
      intro step member
      apply Floor.run_spares name user patience threads
        ((prior ++ circumstances.upTo polls) ++ (between ++ later.turns 0))
      rw [Floor.made_append, ← ended]
      exact List.mem_append_right _ member
    apply await_met
    rw [condition.isMetBy_mark mark lasting, ← Floor.run_append]
    exact outcome.2.floor.run_stays (between ++ later.turns 0) mark on spares unreset

-- Three turns before each look: the key is in its set at the second look, and stays there.
theorem await_judges_created :
    let order : Arrangement String := ⟨List.reverse, List.reverse_perm⟩
    let begun := (Floor.ofThreads "cq" none .standard [[.reset, .event (.keyed .create "a")]]).run
      [0, 0, 0, 0, 0]
    let first := await order ⟨fun _ => [0, 0, 0], fun _ => .zero⟩ (.created "a") .standard 5 (onto begun)
    (Condition.created "a").mark? = some (.key .created "a") ∧ first.1 = .met 2 ∧
      (await order ⟨fun _ => [0], fun _ => .zero⟩ (.created "a") .standard 1
        (onto (first.2.floor.run []))).1 = .met 1 := by
  intro order begun first
  have told : Judges _ [0, 0, 0, 0, 0] ⟨fun _ => [0, 0, 0], fun _ => .zero⟩ (.created "a")
      (.key .created "a") 5 first :=
    await_judges "cq" none .standard .standard [[.reset, .event (.keyed .create "a")]]
      [0, 0, 0, 0, 0] order ⟨fun _ => [0, 0, 0], fun _ => .zero⟩ (.created "a") (.key .created "a") rfl 5
  have met : first.1 = .met 2 := by decide
  exact ⟨rfl, met, told.again 2 met [] ⟨fun _ => [0], fun _ => .zero⟩ (by decide) order .standard 0⟩

end Watch

end QueryRecorder
