import QueryRecorder.Proofs.Errands
import QueryRecorder.Proofs.Sequence

/-!
Surveys made while others deliver. A survey reads one figure after another, and any number of turns may
lie between two of its reads, so its copy may show no state that there ever was. Yet each figure was
current at some moment of the survey, and the moments follow one another in the order of the readings.
-/

namespace QueryRecorder

variable {K : Type}

deriving instance DecidableEq for Worker

def Reading.Same (a b : Stats) : Reading → Prop
  | counter c => a.count c = b.count c
  | flag f => a.flag f = b.flag f

theorem Reading.same_refl (sheet : Stats) (reading : Reading) : reading.Same sheet sheet := by
  cases reading <;> rfl

theorem Reading.copy_same (live sheet : Stats) (reading : Reading) :
    reading.Same (reading.copy live sheet) live := by
  cases reading with
  | counter c => exact (copy_count live sheet _ c).trans (if_pos rfl)
  | flag f => exact (copy_flag live sheet _ f).trans (if_pos rfl)

theorem Reading.copy_other (live sheet : Stats) (reading other : Reading) (apart : other ≠ reading) :
    other.Same (reading.copy live sheet) sheet := by
  cases other with
  | counter c => exact (copy_count live sheet _ c).trans (if_neg apart.symm)
  | flag f => exact (copy_flag live sheet _ f).trans (if_neg apart.symm)

theorem Reading.same_trans {a b c : Stats} {reading : Reading} (first : reading.Same a b)
    (second : reading.Same b c) : reading.Same a c := by
  cases reading <;> exact Eq.trans first second

namespace Floor

variable [DecidableEq K] [Outlined K]

theorem advance_other (floor : Floor K) (now turn : Nat) (other : now ≠ turn) :
    (floor.advance now).workers[turn]? = floor.workers[turn]? := by
  unfold advance
  split
  · split
    · exact List.getElem?_set_ne other
    · rfl
  · rfl

theorem advance_here (floor : Floor K) (turn : Nat) (step : Step K) (rest : List (Step K))
    (hand : UInt64) (sheet : Stats)
    (found : floor.workers[turn]? = some ⟨step :: rest, hand, sheet⟩) :
    (floor.advance turn).workers[turn]? =
      some ⟨rest, step.fetch hand floor.recorder, step.transcribe sheet floor.recorder⟩ := by
  have moved : floor.advance turn = floor.act turn ⟨step :: rest, hand, sheet⟩ step rest := by
    simp only [advance, found]
  obtain ⟨inside, _⟩ := List.getElem?_eq_some_iff.mp found
  rw [moved]
  exact List.getElem?_set_self inside

theorem advance_done (floor : Floor K) (turn : Nat) (hand : UInt64) (sheet : Stats)
    (found : floor.workers[turn]? = some ⟨[], hand, sheet⟩) : floor.advance turn = floor := by
  simp [advance, found]

theorem run_worker (floor : Floor K) (later : List Nat) (turn : Nat) (worker : Worker K)
    (found : floor.workers[turn]? = some worker) :
    ∃ last, (floor.run later).workers[turn]? = some last ∧
      (last = worker ∨ last.todo.length < worker.todo.length) := by
  induction later generalizing floor worker with
  | nil => exact ⟨worker, found, .inl rfl⟩
  | cons now later ih =>
      by_cases here : now = turn
      · subst now
        obtain ⟨todo, hand, sheet⟩ := worker
        cases todo with
        | nil => exact ih (floor.advance turn) _ (by rw [floor.advance_done turn hand sheet found, found])
        | cons step rest =>
            obtain ⟨last, ends, same | fewer⟩ :=
              ih (floor.advance turn) _ (floor.advance_here turn step rest hand sheet found)
            · refine ⟨last, ends, .inr ?_⟩
              rw [same]
              exact Nat.lt_succ_self rest.length
            · exact ⟨last, ends, .inr (Nat.lt_succ_of_lt fewer)⟩
      · exact ih (floor.advance now) worker (by rw [floor.advance_other now turn here, found])

/-- The copy that the readings have made of the sheet in the turns of `later`, each at its moment. -/
structure Copied (floor : Floor K) (later : List Nat) (readings : List Reading) (sheet copy : Stats)
    (moment : Reading → List Nat) : Prop where
  during : ∀ reading, moment reading <+: later
  inOrder : readings.Pairwise fun a b => moment a <+: moment b
  read : ∀ reading ∈ readings, reading.Same copy (floor.run (moment reading)).recorder.stats
  unread : ∀ reading, reading ∉ readings → reading.Same copy sheet

namespace Copied

variable {floor : Floor K} {later : List Nat} {readings : List Reading} {sheet copy : Stats}
  {moment : Reading → List Nat}

theorem nothing (floor : Floor K) (later : List Nat) (sheet : Stats) :
    Copied floor later [] sheet sheet fun _ => [] := by
  constructor
  case during => exact fun _ => List.nil_prefix
  case inOrder => exact List.Pairwise.nil
  case read => exact fun _ member => absurd member List.not_mem_nil
  case unread => exact fun reading _ => reading.same_refl sheet

theorem after (now : Nat) (copied : Copied (floor.advance now) later readings sheet copy moment) :
    Copied floor (now :: later) readings sheet copy fun reading => now :: moment reading := by
  have behind (a b : Reading) (before : moment a <+: moment b) :
      now :: moment a <+: now :: moment b := List.prefix_cons_inj now |>.mpr before
  constructor
  case during => exact fun reading => List.prefix_cons_inj now |>.mpr (copied.during reading)
  case inOrder => exact copied.inOrder.imp fun {a b} => behind a b
  case read => exact copied.read
  case unread => exact copied.unread

-- A figure that is read first is read at once, and by no later reading.
theorem first (now : Nat) (reading : Reading) (once : reading ∉ readings)
    (copied : Copied (floor.advance now) later readings (reading.copy floor.recorder.stats sheet) copy
      moment) :
    Copied floor (now :: later) (reading :: readings) sheet copy
      fun other => if other = reading then [] else now :: moment other := by
  have behind := copied.after
  constructor
  case during =>
    intro other
    by_cases same : other = reading
    · rw [if_pos same]
      exact List.nil_prefix
    · rw [if_neg same]
      exact behind.during other
  case inOrder =>
    refine List.pairwise_cons.mpr ⟨?_, ?_⟩
    · intro other _
      rw [if_pos rfl]
      exact List.nil_prefix
    · refine behind.inOrder.imp_of_mem ?_
      intro a b inA inB before
      rw [if_neg (ne_of_mem_of_not_mem inA once), if_neg (ne_of_mem_of_not_mem inB once)]
      exact before
  case read =>
    intro other member
    by_cases same : other = reading
    · rw [if_pos same, same]
      exact Reading.same_trans (copied.unread reading once) (reading.copy_same floor.recorder.stats sheet)
    · rw [if_neg same]
      exact copied.read other (List.mem_of_ne_of_mem same member)
  case unread =>
    intro other missing
    have apart : other ≠ reading := fun same => missing (same ▸ List.mem_cons_self)
    have later : other ∉ readings := fun member => missing (List.mem_cons_of_mem reading member)
    exact Reading.same_trans (copied.unread other later)
      (reading.copy_other floor.recorder.stats sheet other apart)

end Copied

/-- Whatever the others do meanwhile, a worker that makes its readings copies what it reads. -/
theorem run_copies (turn : Nat) (rest : List (Step K)) (fetched : UInt64) (copy : Stats)
    (readings : List Reading) (once : readings.Nodup) (hand : UInt64) (sheet : Stats) (floor : Floor K)
    (later : List Nat)
    (begins : floor.workers[turn]? = some ⟨readings.map .read ++ rest, hand, sheet⟩)
    (ends : (floor.run later).workers[turn]? = some ⟨rest, fetched, copy⟩) :
    ∃ moment, Copied floor later readings sheet copy moment := by
  induction later generalizing floor readings hand sheet with
  | nil =>
      have same := Option.some.inj (begins.symm.trans ends)
      rw [Worker.mk.injEq, List.append_left_eq_self, List.map_eq_nil_iff] at same
      obtain ⟨rfl, _, rfl⟩ := same
      exact ⟨_, .nothing floor [] sheet⟩
  | cons now later ih =>
      cases readings with
      | nil =>
          -- All is read. The worker has as many steps in front of it as at the end, so it makes none.
          obtain ⟨last, found, same | fewer⟩ := floor.run_worker (now :: later) turn _ begins
          · rw [found, same, Option.some.injEq, Worker.mk.injEq] at ends
            obtain ⟨_, _, rfl⟩ := ends
            exact ⟨_, .nothing floor (now :: later) sheet⟩
          · rw [found, Option.some.injEq] at ends
            rw [ends] at fewer
            exact absurd fewer (Nat.lt_irrefl rest.length)
      | cons reading readings =>
          by_cases here : now = turn
          · subst now
            obtain ⟨missing, onceEach⟩ := List.nodup_cons.mp once
            have next : floor.workers[turn]? =
                some ⟨.read reading :: (readings.map .read ++ rest), hand, sheet⟩ := begins
            have read := floor.advance_here turn _ _ hand sheet next
            obtain ⟨moment, copied⟩ := ih readings onceEach _ _ (floor.advance turn) read ends
            exact ⟨_, copied.first turn reading missing⟩
          · obtain ⟨moment, copied⟩ := ih (reading :: readings) once hand sheet (floor.advance now)
              (by rw [floor.advance_other now turn here, begins]) ends
            exact ⟨_, copied.after⟩

section Surveyed

variable {floor : Floor K} {schedule later : List Nat}
  {readings : List Reading} {sheet copy : Stats} {moment : Reading → List Nat}
  (copied : Copied (floor.run schedule) later readings sheet copy moment)

include copied

theorem Copied.counter_between (counter : Counter)
    (few : (floor.recorder.stats.count counter).toNat + amount (Step.raises counter) floor.pending <
      2 ^ 64)
    (member : .counter counter ∈ readings) :
    (floor.run schedule).recorder.stats.count counter ≤ copy.count counter ∧
      copy.count counter ≤ (floor.run (schedule ++ later)).recorder.stats.count counter := by
  have read : copy.count counter =
      ((floor.run schedule).run (moment (.counter counter))).recorder.stats.count counter :=
    copied.read (.counter counter) member
  obtain ⟨rest, split⟩ := copied.during (.counter counter)
  rw [read, ← run_append]
  constructor
  · exact counts_le floor schedule _ counter few
  · rw [← split, ← List.append_assoc]
    exact counts_le floor _ rest counter few

-- A flag that is never lowered is read as set if it was set, and stays set if it was read so.
theorem Copied.flag_between (flag : Flag)
    (spares : ∀ step ∈ floor.pending, step.sparesRegions = true)
    (lasts : ∀ step : Step K, (Mark.flag flag).clearedAt step = false) (member : .flag flag ∈ readings) :
    ((floor.run schedule).recorder.stats.flag flag = true → copy.flag flag = true) ∧
      (copy.flag flag = true → (floor.run (schedule ++ later)).recorder.stats.flag flag = true) := by
  have read : copy.flag flag =
      ((floor.run schedule).run (moment (.flag flag))).recorder.stats.flag flag :=
    copied.read (.flag flag) member
  obtain ⟨rest, split⟩ := copied.during (.flag flag)
  rw [read, ← run_append]
  constructor
  · exact fun set => marks_stay floor schedule _ spares (.flag flag) set lasts
  · intro set
    rw [← split, ← List.append_assoc]
    exact marks_stay floor _ rest spares (.flag flag) set lasts

theorem Copied.still (every : ∀ reading, reading ∈ readings)
    (reads : ∀ step ∈ (floor.run schedule).made later, ∃ reading, step = .read reading) :
    copy = (floor.run schedule).recorder.stats := by
  have same (reading : Reading) :
      ((floor.run schedule).run (moment reading)).recorder = (floor.run schedule).recorder := by
    obtain ⟨rest, split⟩ := copied.during reading
    apply ((floor.run schedule).run_course (moment reading)).reads
    intro step member
    apply reads step
    rw [← split, made_append]
    exact List.mem_append_left _ member
  apply Stats.ext_figures
  · intro counter
    rw [← same (.counter counter)]
    exact copied.read (.counter counter) (every _)
  · intro flag
    rw [← same (.flag flag)]
    exact copied.read (.flag flag) (every _)

end Surveyed

end Floor

/-- What a copy of the figures tells that is made in the turns of `later`, after those of `schedule`. -/
structure Stats.Surveyed [DecidableEq K] [Outlined K] (copy : Stats) (start : Floor K)
    (schedule later : List Nat) : Prop where
  above : ∀ counter, (start.run schedule).recorder.stats.count counter ≤ copy.count counter
  below : ∀ counter,
    copy.count counter ≤ (start.run (schedule ++ later)).recorder.stats.count counter
  regionCleared :
    ((start.run schedule).recorder.stats.regionCleared = true → copy.regionCleared = true) ∧
      (copy.regionCleared = true →
        (start.run (schedule ++ later)).recorder.stats.regionCleared = true)
  regionInvalidated :
    ((start.run schedule).recorder.stats.regionInvalidated = true → copy.regionInvalidated = true) ∧
      (copy.regionInvalidated = true →
        (start.run (schedule ++ later)).recorder.stats.regionInvalidated = true)
  -- Nothing but reads was done meanwhile.
  still : (∀ step ∈ (start.run schedule).made later, ∃ reading, step = .read reading) →
    copy = (start.run schedule).recorder.stats ∧
      copy = (start.run (schedule ++ later)).recorder.stats
  -- The total may be ahead by the events that are of no class and by the deliveries in progress.
  covered : ∀ limit, (∀ moment, moment <+: later → (start.run (schedule ++ moment)).inFlight ≤ limit) →
    copy.total.toNat ≤ copy.creates.toNat + copy.updates.toNat + copy.deletes.toNat +
      copy.errors.toNat + amount Step.classless (start.made (schedule ++ later)) + limit

namespace Floor

section Errands

variable [DecidableEq K] [Outlined K] (name : String) (user : Option String) (patience : Patience)
  (threads : List (List (Errand K))) (few : (threads.flatten.filterMap Errand.call?).length < 2 ^ 64)
  (schedule later : List Nat)

include few

-- The total is read first, so the other figures have caught up with it but for what was under way.
theorem survey_covered (sheet copy : Stats) (moment : Reading → List Nat)
    (copied : Copied ((ofErrands name user patience threads).run schedule) later Reading.all sheet copy
      moment) :
    ∃ turns, turns <+: later ∧
      copy.total.toNat ≤ copy.creates.toNat + copy.updates.toNat + copy.deletes.toNat +
        copy.errors.toNat +
        amount Step.classless ((ofErrands name user patience threads).made (schedule ++ turns)) +
        ((ofErrands name user patience threads).run (schedule ++ turns)).inFlight := by
  have sorted := run_sorted name user patience threads few (schedule ++ moment (.counter .total))
  have first : ∀ reading ∈ Reading.all.tail, moment (.counter .total) <+: moment reading :=
    (List.pairwise_cons.mp copied.inOrder).1
  have total : copy.count .total = ((ofErrands name user patience threads).run
      (schedule ++ moment (.counter .total))).recorder.stats.count .total := by
    rw [run_append]
    exact copied.read (.counter .total) (Reading.mem_all _)
  have caught (counter : Counter) (behind : .counter counter ∈ Reading.all.tail) :
      (((ofErrands name user patience threads).run
        (schedule ++ moment (.counter .total))).recorder.stats.count counter).toNat ≤
        (copy.count counter).toNat := by
    have read : copy.count counter = (((ofErrands name user patience threads).run schedule).run
        (moment (.counter counter))).recorder.stats.count counter :=
      copied.read (.counter counter) (Reading.mem_all _)
    obtain ⟨rest, split⟩ := first (.counter counter) behind
    rw [read, ← split, ← run_append, ← List.append_assoc, ← UInt64.le_iff_toNat_le]
    exact counts_le _ _ rest counter (errands_counts name user patience threads few counter)
  refine ⟨moment (.counter .total), copied.during _, ?_⟩
  have creates := caught .creates (by decide)
  have updates := caught .updates (by decide)
  have deletes := caught .deletes (by decide)
  have errors := caught .errors (by decide)
  rw [← total] at sorted
  simp only [Stats.count] at sorted creates updates deletes errors
  omega

theorem survey_surveyed (sheet copy : Stats) (moment : Reading → List Nat)
    (copied : Copied ((ofErrands name user patience threads).run schedule) later Reading.all sheet copy
      moment) :
    copy.Surveyed (ofErrands name user patience threads) schedule later := by
  have spares := errands_spare name user patience threads
  have counts := errands_counts name user patience threads few
  constructor
  case above =>
    exact fun counter => (copied.counter_between counter (counts counter) (Reading.mem_all _)).1
  case below =>
    exact fun counter => (copied.counter_between counter (counts counter) (Reading.mem_all _)).2
  case regionCleared =>
    exact copied.flag_between .regionCleared spares (fun step => by cases step <;> rfl) (Reading.mem_all _)
  case regionInvalidated =>
    exact copied.flag_between .regionInvalidated spares (fun step => by cases step <;> rfl)
      (Reading.mem_all _)
  case still =>
    intro reads
    have same := copied.still Reading.mem_all reads
    constructor
    · exact same
    · rw [run_append, (((ofErrands name user patience threads).run schedule).run_course later).reads reads]
      exact same
  case covered =>
    intro limit bounded
    obtain ⟨turns, early, covered⟩ :=
      survey_covered name user patience threads few schedule later sheet copy moment copied
    have flying := bounded turns early
    obtain ⟨rest, rfl⟩ := early
    rw [← List.append_assoc, made_append, amount_append]
    omega

end Errands

end Floor

end QueryRecorder
