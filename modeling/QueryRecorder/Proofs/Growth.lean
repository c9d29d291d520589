import QueryRecorder.Proofs.Bounds
import QueryRecorder.Proofs.Sequence
import QueryRecorder.Proofs.Watch

/-!
Growth of a record in the course of a run. Nothing that was recorded is taken back but by a reset, and a
reset takes back neither counts nor errors nor history. The history grows in the middle, since a ticket
may be drawn early and filed late; it grows at its end only if no delivery is in progress. A count that
has passed its target never comes back to it, so a wait that looks afterwards is in vain.
-/

namespace QueryRecorder

variable {K : Type}

/-- What a record and a later one have in common, with the steps made in between. -/
structure Recorder.Grown (before : Recorder K) (between : List (Step K)) (after : Recorder K) :
    Prop where
  counts : ∀ counter, before.stats.count counter ≤ after.stats.count counter
  errors : before.errors ⊆ after.errors
  regionCleared : before.stats.regionCleared = true → after.stats.regionCleared = true
  regionInvalidated : before.stats.regionInvalidated = true → after.stats.regionInvalidated = true
  events : before.events.Sublist after.events
  keys : ∀ bucket key, key ∈ before.keys bucket → key ∉ after.keys bucket → .clear bucket ∈ between
  closed : before.stats.closed = true → after.stats.closed = false → .setFlag .closed false ∈ between

/-- The count that a condition waits for. -/
def Condition.tally? : Condition K → Option (Counter × UInt64)
  | .totalEvents n => some (.total, n)
  | .connected n => some (.connects, n)
  | .disconnected n => some (.disconnects, n)
  | _ => none

/-- No look that begins when the floor is so finds a count met that the record had passed before. -/
structure Recorder.Passed [DecidableEq K] [Outlined K] (before : Recorder K) (floor : Floor K) :
    Prop where
  conditions : ∀ (condition : Condition K) counter n, condition.tally? = some (counter, n) →
    n < before.stats.count counter →
      ∀ (order : Arrangement String) (circumstances : Circumstances) (watch : Watch K),
        watch.floor = floor → ((condition.criterion order (Watch.host circumstances)
          (Watch.look circumstances)).done.run watch).1 = false
  targets : ∀ (expected : Expected) target, expected.goal target ≠ 0 →
    expected.goal target < before.stats.count target.counter →
      ∀ (circumstances : Circumstances) (watch : Watch K) identity, watch.floor = floor →
      ((expected.criterion (Watch.look circumstances) identity).done.run watch).1 = false

theorem Condition.isMetBy_tally [DecidableEq K] (condition : Condition K) (counter : Counter) (n : UInt64)
    (counted : condition.tally? = some (counter, n)) (recorder : Recorder K) :
    condition.isMetBy recorder = (recorder.stats.count counter == n) := by
  cases condition <;> simp only [tally?, Option.some.injEq, Prod.mk.injEq, reduceCtorEq] at counted <;>
    obtain ⟨rfl, rfl⟩ := counted <;> rfl

-- One goal that is missed is enough.
theorem Expected.isMetBy_false (expected : Expected) (target : Target) (stats : Stats)
    (checked : expected.goal target ≠ 0) (missed : expected.goal target ≠ stats.count target.counter) :
    expected.isMetBy stats = false := by
  rw [isMetBy, List.all_eq_false]
  refine ⟨target, by cases target <;> decide, ?_⟩
  simp [checked, missed]

-- A look for targets judges the copy that it makes.
theorem Expected.done_run {σ : Type} (expected : Expected) (look : StateM σ (Recorder K))
    (identity : String) (world : σ) :
    ((expected.criterion look identity).done.run world).1 =
      expected.isMetBy ((survey look).run world).1 := by
  unfold criterion
  generalize survey look = copied
  rfl

namespace Watch

variable [DecidableEq K] [Outlined K] (circumstances : Circumstances)

/-- One look for one figure, copied to the sheet. -/
def copying (sheet : Stats) (reading : Reading) : StateM (Watch K) Stats := do
  let recorder ← look circumstances
  pure (reading.copy recorder.stats sheet)

-- What is copied is read at one of the looks, after the turns taken by then.
theorem copying_reads (readings : List Reading) (sheet : Stats) (watch : Watch K) (counter : Counter) :
    (∃ turns, ((readings.foldlM (copying circumstances) sheet).run watch).1.count counter =
        (watch.floor.run turns).recorder.stats.count counter) ∨
      (.counter counter ∉ readings ∧
        ((readings.foldlM (copying circumstances) sheet).run watch).1.count counter =
          sheet.count counter) := by
  induction readings generalizing sheet watch with
  | nil => exact .inr ⟨List.not_mem_nil, rfl⟩
  | cons reading rest ih =>
      let taken := circumstances.turns watch.looks
      let seen : Watch K := { watch with floor := watch.floor.run taken, looks := watch.looks + 1 }
      have first : ((reading :: rest).foldlM (copying circumstances) sheet).run watch =
          (rest.foldlM (copying circumstances)
            (reading.copy (watch.floor.run taken).recorder.stats sheet)).run seen := rfl
      rw [first]
      rcases ih (reading.copy (watch.floor.run taken).recorder.stats sheet) seen with
        ⟨turns, read⟩ | ⟨unread, kept⟩
      · left
        exact ⟨taken ++ turns, by rw [read, Floor.run_append]⟩
      · rw [kept, Reading.copy_count]
        by_cases same : reading = .counter counter
        · left
          exact ⟨taken, by rw [if_pos same]⟩
        · right
          refine ⟨?_, by rw [if_neg same]⟩
          intro member
          rcases List.mem_cons.mp member with rfl | inRest
          · exact same rfl
          · exact unread inRest

theorem survey_reads (watch : Watch K) (counter : Counter) :
    ∃ turns, ((Expected.survey (look circumstances)).run watch).1.count counter =
      (watch.floor.run turns).recorder.stats.count counter := by
  rcases copying_reads circumstances Reading.all .zero watch counter with read | ⟨unread, _⟩
  · exact read
  · exact absurd (Reading.mem_all _) unread

end Watch

namespace Floor

theorem idle_held (floor : Floor K) (idle : floor.inFlight = 0) : floor.held = [] := by
  apply List.filterMap_eq_nil_iff.mpr
  intro worker member
  have calm := List.countP_eq_zero.mp idle worker member
  obtain ⟨todo, hand, sheet⟩ := worker
  cases todo with
  | nil => rfl
  | cons step rest => cases step <;> first | rfl | exact absurd rfl calm

namespace Ledger

variable {start floor : Floor K} {drawn : List (Nat × Event K)}

theorem reads_off (ledger : Ledger start floor drawn) :
    floor.recorder.events = floor.recorder.history.reverse.map (·.2) :=
  Recorder.inOrder_reverse _ ledger.falling

-- A turn enters an event between the others, or leaves the history as it is.
theorem grows [DecidableEq K] [Outlined K]
    (few : (start.workers.flatMap Worker.undrawn).length ≤ 2 ^ 64) {now : Nat} {steps : List (Step K)}
    {later : Floor K} (ledger : Ledger start floor drawn) (move : Turn now floor steps later) :
    floor.recorder.history.Sublist later.recorder.history := by
  cases move with
  | pass => exact List.Sublist.refl _
  | move recorder before after journal step rest hand sheet =>
      rw [history_perform]
      cases step with
      | file event =>
          exact Recorder.file_sublist hand event recorder.history
            (ledger.fresh event (Nat.le_trans ledger.bounded few))
      | _ => exact List.Sublist.refl _

end Ledger

variable [DecidableEq K] [Outlined K]

-- From a moment with a ledger on, the history only grows.
theorem history_grows (start floor : Floor K)
    (few : (start.workers.flatMap Worker.undrawn).length ≤ 2 ^ 64)
    (opening : ∃ drawn, Ledger start floor drawn) (later : List Nat) :
    floor.recorder.history.Sublist (floor.run later).recorder.history := by
  have kept : floor.recorder.history.Sublist (floor.run later).recorder.history ∧
      ∃ drawn, Ledger start (floor.run later) drawn := by
    apply run_turns (motive := fun _ floor' =>
      floor.recorder.history.Sublist floor'.recorder.history ∧ ∃ drawn, Ledger start floor' drawn)
    · exact ⟨List.Sublist.refl _, opening⟩
    · rintro done before now steps after ⟨grown, drawn, ledger⟩ move
      exact ⟨grown.trans (ledger.grows few move), ledger.turn few move⟩
  exact kept.1

section Threads

variable (name : String) (user : Option String) (patience : Patience) (threads : List (List (Call K)))
  (few : threads.flatten.length < 2 ^ 64) (schedule later : List Nat)

include few

theorem threads_history :
    ((ofThreads name user patience threads).run schedule).recorder.history.Sublist
      ((ofThreads name user patience threads).run (schedule ++ later)).recorder.history := by
  have fewer := Call.keyed_length threads.flatten
  obtain ⟨drawn, _, ledger⟩ := threads_ledger name user patience threads few schedule
  rw [run_append]
  refine history_grows _ _ ?_ ⟨drawn, ledger⟩ later
  rw [ofThreads_whole]
  omega

theorem run_grown :
    ((ofThreads name user patience threads).run schedule).recorder.Grown
      (((ofThreads name user patience threads).run schedule).made later)
      ((ofThreads name user patience threads).run (schedule ++ later)).recorder := by
  have spares := ofThreads_spares name user patience threads
  have lost := (ofThreads name user patience threads).marks_lost schedule later spares
  have stay := (ofThreads name user patience threads).marks_stay schedule later spares
  constructor
  case counts =>
    intro counter
    exact counts_le _ schedule later counter (threads_counts name user patience threads few counter)
  case errors =>
    intro message member
    have kept := stay (.error message) (List.contains_iff_mem.mpr member)
      fun step => by cases step <;> rfl
    exact List.contains_iff_mem.mp kept
  case regionCleared =>
    exact fun set => stay (.flag .regionCleared) set fun step => by cases step <;> rfl
  case regionInvalidated =>
    exact fun set => stay (.flag .regionInvalidated) set fun step => by cases step <;> rfl
  case events =>
    obtain ⟨_, _, ledger⟩ := threads_ledger name user patience threads few schedule
    obtain ⟨_, _, ledgerLater⟩ := threads_ledger name user patience threads few (schedule ++ later)
    rw [ledger.reads_off, ledgerLater.reads_off]
    exact (threads_history name user patience threads few schedule later).reverse.map _
  case keys =>
    intro bucket key member gone
    obtain ⟨step, made, cleared⟩ := lost (.key bucket key) (List.contains_iff_mem.mpr member)
      (by simpa [Mark.isOn, Recorder.holds] using gone)
    cases step with
    | clear other =>
        have same : bucket = other := by simpa [Mark.clearedAt] using cleared
        rw [same]
        exact made
    | _ => cases cleared
  case closed =>
    intro set lowered
    obtain ⟨step, made, cleared⟩ := lost (.flag .closed) set lowered
    cases step with
    | setFlag flag value =>
        cases flag <;> cases value <;> first | exact made | cases cleared
    | _ => cases cleared

-- All tickets drawn by now are filed, so whatever comes later is filed above them.
theorem idle_prefix (idle : ((ofThreads name user patience threads).run schedule).inFlight = 0) :
    ((ofThreads name user patience threads).run schedule).recorder.events <+:
      ((ofThreads name user patience threads).run (schedule ++ later)).recorder.events := by
  obtain ⟨drawn, short, ledger⟩ := threads_ledger name user patience threads few schedule
  obtain ⟨_, _, ledgerLater⟩ := threads_ledger name user patience threads few (schedule ++ later)
  have grown := (threads_history name user patience threads few schedule later).reverse
  have shortEnough : (drawn.map (·.2)).length ≤ 2 ^ 64 := by
    rw [List.length_map]
    exact Nat.le_of_lt short
  have dense := Recorder.numbered_tickets (drawn.map (·.2)) shortEnough
  rw [ledger.reads_off, ledgerLater.reads_off]
  apply List.IsPrefix.map
  rw [ledger.settled_history short (idle_held _ idle), List.reverse_reverse] at grown ⊢
  refine Recorder.dense_prefix grown 0 ?_ (List.pairwise_reverse.mpr ledgerLater.falling)
    fun entry _ => Nat.zero_le _
  rw [dense, List.range_eq_range', Recorder.numbered, List.length_mapIdx]

theorem run_passed :
    ((ofThreads name user patience threads).run schedule).recorder.Passed
      ((ofThreads name user patience threads).run (schedule ++ later)) := by
  -- Whatever turns are taken until a figure is read, it is beyond the target already.
  have beyond (counter : Counter) (n : UInt64) (more : List Nat)
      (exceeds : n < ((ofThreads name user patience threads).run schedule).recorder.stats.count counter) :
      n < (((ofThreads name user patience threads).run (schedule ++ later)).run more).recorder.stats.count
        counter := by
    rw [← run_append, List.append_assoc]
    exact UInt64.lt_of_lt_of_le exceeds (counts_le _ schedule (later ++ more) counter
      (threads_counts name user patience threads few counter))
  constructor
  case conditions =>
    rintro condition counter n counted exceeds order circumstances watch begins
    obtain ⟨_, looked, _⟩ := Watch.look_for order circumstances condition watch
    rw [looked, condition.isMetBy_tally counter n counted, begins, beq_eq_false_iff_ne]
    exact (UInt64.ne_of_lt (beyond counter n _ exceeds)).symm
  case targets =>
    intro expected target checked exceeds circumstances watch identity begins
    obtain ⟨turns, read⟩ := Watch.survey_reads circumstances watch target.counter
    rw [begins] at read
    have missed := UInt64.ne_of_lt (beyond target.counter _ turns exceeds)
    rw [← read] at missed
    rw [Expected.done_run]
    exact expected.isMetBy_false target _ checked missed

/-- Between any two moments of a run nothing recorded is taken back but by a reset, and a count that
was passed at the first is met at no look after the second. -/
theorem run_grows :
    ((ofThreads name user patience threads).run schedule).recorder.Grown
        (((ofThreads name user patience threads).run schedule).made later)
        ((ofThreads name user patience threads).run (schedule ++ later)).recorder ∧
      (((ofThreads name user patience threads).run schedule).inFlight = 0 →
        ((ofThreads name user patience threads).run schedule).recorder.events <+:
          ((ofThreads name user patience threads).run (schedule ++ later)).recorder.events) ∧
      ((ofThreads name user patience threads).run schedule).recorder.Passed
        ((ofThreads name user patience threads).run (schedule ++ later)) :=
  ⟨run_grown name user patience threads few schedule later,
    idle_prefix name user patience threads few schedule later,
    run_passed name user patience threads few schedule later⟩

end Threads

-- The first ticket is filed last, so the history grows before the entry that was there already. Two
-- events were counted by then, and a wait for one looks in vain.
theorem run_grows_crossed :
    let threads : List (List (Call String)) :=
      [[.event (.keyed .create "a")], [.event (.keyed .create "b")]]
    let early := (ofThreads "cq" none .standard threads).run [0, 0, 0, 1, 1, 1, 1]
    let late := (ofThreads "cq" none .standard threads).run ([0, 0, 0, 1, 1, 1, 1] ++ [0])
    let order : Arrangement String := ⟨List.reverse, List.reverse_perm⟩
    let circumstances : Circumstances := ⟨fun _ => [0, 1], fun _ => .zero⟩
    threads.flatten.length < 2 ^ 64 ∧
    early.recorder.events = [.keyed .create "b"] ∧
    late.recorder.events = [.keyed .create "a", .keyed .create "b"] ∧
    early.recorder.events.Sublist late.recorder.events ∧
    (((Condition.totalEvents 1).criterion order (Watch.host circumstances)
      (Watch.look circumstances)).done.run (Watch.onto late)).1 = false := by
  intro threads early late order circumstances
  obtain ⟨grown, _, passed⟩ :=
    run_grows "cq" none .standard threads (by decide) [0, 0, 0, 1, 1, 1, 1] [0]
  have before : early.recorder.events = [.keyed .create "b"] := by decide +kernel
  have entries : late.recorder.history = [(1, .keyed .create "b"), (0, .keyed .create "a")] := by
    decide
  have after : late.recorder.events = [.keyed .create "a", .keyed .create "b"] := by
    rw [Recorder.events, entries]
    exact Recorder.inOrder_reverse _ (by simp [Recorder.Descending])
  exact ⟨by decide, before, after, grown.events, passed.conditions (.totalEvents 1) .total 1 rfl
    (by decide) order circumstances (Watch.onto late) (Watch.onto_floor late)⟩

end Floor

end QueryRecorder
