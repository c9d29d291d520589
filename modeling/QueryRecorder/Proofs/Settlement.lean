import QueryRecorder.Proofs.Endurance
import QueryRecorder.Proofs.Growth
import QueryRecorder.Proofs.Targets

/-!
Waiting for targets while others deliver. Each poll is a survey, made figure by figure, and turns may be
taken before every figure is read. A wait in vain is explained by a further survey, which may find met
what the last poll found unmet, but only if something was counted between the two. The wait returns in
any case and leaves the record as the others make it.
-/

namespace QueryRecorder

variable {K : Type}

namespace Circumstances

variable (circumstances : Circumstances)

/-- The turns that are taken after so many looks and before so many. -/
def between (looks later : Nat) : List Nat :=
  (List.range' looks (later - looks)).flatMap circumstances.turns

theorem between_append {looks middle later : Nat} (first : looks ≤ middle) (second : middle ≤ later) :
    circumstances.between looks middle ++ circumstances.between middle later =
      circumstances.between looks later := by
  have length : middle - looks + (later - middle) = later - looks := by omega
  have joined := @List.range'_append_1 looks (middle - looks) (later - middle)
  rw [Nat.add_sub_cancel' first, length] at joined
  rw [between, between, ← List.flatMap_append, joined, between]

theorem upTo_between {looks later : Nat} (forward : looks ≤ later) :
    circumstances.upTo looks ++ circumstances.between looks later = circumstances.upTo later := by
  have whole (looks : Nat) : circumstances.upTo looks = circumstances.between 0 looks := by
    rw [upTo, between, List.range_eq_range', Nat.sub_zero]
  rw [whole, whole, circumstances.between_append (Nat.zero_le looks) forward]

/-- What the survey with the given number, the first being number 0, reads of a counter. -/
def figure [DecidableEq K] [Outlined K] (start : Floor K) (survey : Nat) (counter : Counter) : UInt64 :=
  (start.run (circumstances.upTo (survey * Reading.all.length +
    Reading.all.idxOf (.counter counter) + 1))).recorder.stats.count counter

end Circumstances

namespace Watch

variable [DecidableEq K] [Outlined K] (circumstances : Circumstances) (start : Floor K)

-- Each figure is read at a look of its own, and each by one reading alone.
theorem copying_run (readings : List Reading) (once : readings.Nodup) (sheet : Stats) (looks told : Nat)
    (log : List Notice) :
    ((readings.foldlM (copying circumstances) sheet).run
        ⟨start.run (circumstances.upTo looks), looks, told, log⟩).2 =
      ⟨start.run (circumstances.upTo (looks + readings.length)), looks + readings.length, told, log⟩ ∧
    ∀ counter, ((readings.foldlM (copying circumstances) sheet).run
        ⟨start.run (circumstances.upTo looks), looks, told, log⟩).1.count counter =
      if .counter counter ∈ readings then
        (start.run (circumstances.upTo
          (looks + readings.idxOf (.counter counter) + 1))).recorder.stats.count counter
      else sheet.count counter := by
  induction readings generalizing sheet looks with
  | nil => exact ⟨rfl, fun counter => rfl⟩
  | cons reading rest ih =>
      obtain ⟨missing, onceEach⟩ := List.nodup_cons.mp once
      have taken : (start.run (circumstances.upTo looks)).run (circumstances.turns looks) =
          start.run (circumstances.upTo (looks + 1)) := by
        rw [← Floor.run_append, ← Circumstances.upTo_succ]
      have first : ((reading :: rest).foldlM (copying circumstances) sheet).run
            ⟨start.run (circumstances.upTo looks), looks, told, log⟩ =
          (rest.foldlM (copying circumstances)
            (reading.copy ((start.run (circumstances.upTo looks)).run
              (circumstances.turns looks)).recorder.stats sheet)).run
            ⟨(start.run (circumstances.upTo looks)).run (circumstances.turns looks), looks + 1, told,
              log⟩ := rfl
      rw [first, taken]
      obtain ⟨after, figures⟩ := ih onceEach
        (reading.copy (start.run (circumstances.upTo (looks + 1))).recorder.stats sheet) (looks + 1)
      have count : looks + 1 + rest.length = looks + (reading :: rest).length := by
        rw [List.length_cons]
        omega
      rw [count] at after
      refine ⟨after, ?_⟩
      intro counter
      rw [figures, Reading.copy_count, List.idxOf_cons]
      by_cases here : reading = .counter counter
      · subst here
        simp [missing]
      · have place : looks + 1 + rest.idxOf (.counter counter) + 1 =
            looks + (rest.idxOf (.counter counter) + 1) + 1 := by omega
        have apart : (reading == .counter counter) = false := by simpa using here
        have other : ¬ Reading.counter counter = reading := fun same => here same.symm
        simp only [here, other, apart, place, List.mem_cons, false_or, cond_false, ↓reduceIte]

def surveyed (surveys told : Nat) : Watch K :=
  ⟨start.run (circumstances.upTo (surveys * Reading.all.length)), surveys * Reading.all.length, told, []⟩

theorem survey_run (surveys told : Nat) :
    ∃ stats, (Expected.survey (look circumstances)).run (surveyed circumstances start surveys told) =
        (stats, surveyed circumstances start (surveys + 1) told) ∧
      stats.count = circumstances.figure start surveys := by
  obtain ⟨after, figures⟩ := copying_run circumstances start Reading.all (by decide) .zero
    (surveys * Reading.all.length) told []
  have folded : Expected.survey (look (K := K) circumstances) =
      Reading.all.foldlM (copying circumstances) .zero := rfl
  rw [← Nat.succ_mul] at after
  rw [folded, surveyed, surveyed]
  generalize StateT.run (m := Id) (σ := Watch K) _ _ = outcome at after figures ⊢
  obtain ⟨stats, last⟩ := outcome
  refine ⟨stats, congrArg _ after, ?_⟩
  funext counter
  have read := figures counter
  rw [if_pos (Reading.mem_all _)] at read
  exact read

variable (expected : Expected) (patience : Patience)

theorem done_run (identity : String) (surveys told : Nat) :
    ∃ met, (expected.criterion (look circumstances) identity).done.run
        (surveyed circumstances start surveys told) =
          (met, surveyed circumstances start (surveys + 1) told) ∧
      (met = true ↔ expected.MetBy (circumstances.figure start surveys)) := by
  obtain ⟨stats, copied, figures⟩ := survey_run circumstances start surveys told
  refine ⟨expected.isMetBy stats, ?_, by rw [expected.isMetBy_iff, figures]⟩
  rw [Expected.criterion, StateT.run_bind, copied]
  rfl

def explanation (identity : String) (figure : Counter → UInt64) : String :=
  "events for CQ " ++ identity ++ " did not settle: " ++ ", ".intercalate (expected.unmet figure)

theorem description_run (identity : String) (surveys told : Nat) :
    (expected.criterion (look circumstances) identity).description.run
        (surveyed circumstances start surveys told) =
      (explanation expected identity (circumstances.figure start surveys),
        surveyed circumstances start (surveys + 1) told) := by
  obtain ⟨stats, copied, figures⟩ := survey_run circumstances start surveys told
  unfold explanation
  rw [Expected.criterion, StateT.run_bind, copied, ← figures, ← expected.mismatches_text]
  rfl

def waiting : Wait (Watch K) where
  host := host circumstances
  criterion := expected.criterion (look circumstances) start.recorder.identity
  patience := patience
  start := circumstances.clock 0

-- One round is one survey and one reading of the clock.
theorem round_surveys (round : Nat) :
    ((waiting circumstances start expected patience).found
        (surveyed circumstances start round (round + 1)) = true ↔
      expected.MetBy (circumstances.figure start round)) ∧
    (waiting circumstances start expected patience).looked
        (surveyed circumstances start round (round + 1)) =
      surveyed circumstances start (round + 1) (round + 1) ∧
    (waiting circumstances start expected patience).slept
        (surveyed circumstances start round (round + 1)) =
      surveyed circumstances start (round + 1) (round + 2) ∧
    (waiting circumstances start expected patience).elapsed
        (surveyed circumstances start round (round + 1)) =
      circumstances.clock (round + 1) - circumstances.clock 0 := by
  obtain ⟨met, polled, answer⟩ :=
    done_run circumstances start expected start.recorder.identity round (round + 1)
  have looked : (waiting circumstances start expected patience).looked
        (surveyed circumstances start round (round + 1)) =
      surveyed circumstances start (round + 1) (round + 1) := congrArg Prod.snd polled
  refine ⟨?_, looked, ?_, ?_⟩
  · rw [Wait.found]
    exact (Eq.congr_left (congrArg Prod.fst polled)).trans answer
  · rw [Wait.slept, Wait.read, looked]
    rfl
  · rw [Wait.elapsed, Wait.shown, looked]
    rfl

theorem waiting_worldAt (round : Nat) :
    (waiting circumstances start expected patience).worldAt round (surveyed circumstances start 0 1) =
      surveyed circumstances start round (round + 1) := by
  induction round with
  | zero => rfl
  | succ round ih =>
      rw [Wait.worldAt_succ, ih]
      exact (round_surveys circumstances start expected patience round).2.2.1

-- Giving up takes a further survey, and a notice that tells of it.
theorem waiting_gaveUp (polls round : Nat) :
    (waiting circumstances start expected patience).gaveUp polls
        (surveyed circumstances start round (round + 1)) =
      (.timedOut polls ⟨explanation expected start.recorder.identity
          (circumstances.figure start (round + 1)), circumstances.clock (round + 1) - circumstances.clock 0⟩,
        (surveyed circumstances start (round + 2) (round + 2)).note
          [.gaveUp (explanation expected start.recorder.identity
            (circumstances.figure start (round + 1))) polls
              (circumstances.clock (round + 1) - circumstances.clock 0)]) := by
  obtain ⟨_, looked, _, elapsed⟩ := round_surveys circumstances start expected patience round
  have read : (waiting circumstances start expected patience).read
      (surveyed circumstances start round (round + 1)) =
        surveyed circumstances start (round + 1) (round + 2) := by
    rw [Wait.read, looked]
    rfl
  have told : (waiting circumstances start expected patience).criterion.description.run
      (surveyed circumstances start (round + 1) (round + 2)) = _ :=
    description_run circumstances start expected start.recorder.identity (round + 1) (round + 2)
  rw [Wait.gaveUp, Polling.giveUp, StateT.run_bind, read, elapsed, told]
  rfl

def awaitTargets (rounds : Nat) : Verdict × Watch K :=
  (expected.await (host circumstances) (look circumstances) start.recorder.identity patience rounds).run
    (onto start)

/-- The polls before the given one, the first being number 0, find targets unmet and leave time. -/
def UnsettledBefore (poll : Nat) : Prop :=
  ∀ earlier, earlier < poll → ¬ expected.MetBy (circumstances.figure start earlier) ∧
    ¬ patience.timeout ≤ circumstances.clock (earlier + 1) - circumstances.clock 0

theorem vainBefore_unsettled (poll : Nat) :
    (waiting circumstances start expected patience).VainBefore poll (surveyed circumstances start 0 1) ↔
      UnsettledBefore circumstances start expected patience poll := by
  have vain (round : Nat) : (waiting circumstances start expected patience).Vain
        ((waiting circumstances start expected patience).worldAt round (surveyed circumstances start 0 1)) ↔
      ¬ expected.MetBy (circumstances.figure start round) ∧
        ¬ patience.timeout ≤ circumstances.clock (round + 1) - circumstances.clock 0 := by
    obtain ⟨found, _, _, elapsed⟩ := round_surveys circumstances start expected patience round
    rw [Wait.Vain, waiting_worldAt, elapsed, ← found, Bool.not_eq_true]
    rfl
  exact forall_congr' fun earlier => imp_congr_right fun _ => vain earlier

-- A wait for targets ends with the first poll that finds them met, or with the first after which the
-- time is up, or goes on.
theorem awaitTargets_cases (rounds : Nat) :
    (∃ last, last < rounds ∧ UnsettledBefore circumstances start expected patience last ∧
        expected.MetBy (circumstances.figure start last) ∧
        awaitTargets circumstances start expected patience rounds =
          (.met (last + 1), surveyed circumstances start (last + 1) (last + 1))) ∨
      (∃ last, last < rounds ∧ UnsettledBefore circumstances start expected patience last ∧
        ¬ expected.MetBy (circumstances.figure start last) ∧
        patience.timeout ≤ circumstances.clock (last + 1) - circumstances.clock 0 ∧
        ∃ timeout : Timeout, timeout.elapsed = circumstances.clock (last + 1) - circumstances.clock 0 ∧
          timeout.description =
            explanation expected start.recorder.identity (circumstances.figure start (last + 1)) ∧
          awaitTargets circumstances start expected patience rounds =
            (.timedOut (last + 1) timeout, (surveyed circumstances start (last + 2) (last + 2)).note
              [.gaveUp timeout.description (last + 1) timeout.elapsed, .unsettled timeout])) ∨
      (UnsettledBefore circumstances start expected patience rounds ∧
        awaitTargets circumstances start expected patience rounds =
          (.unfinished, surveyed circumstances start rounds (rounds + 1))) := by
  have begins : (Polling.pollUntil (host circumstances)
      (expected.criterion (look circumstances) start.recorder.identity) patience rounds).run (onto start) =
        (waiting circumstances start expected patience).run rounds 0 (surveyed circumstances start 0 1) :=
    rfl
  rcases (waiting circumstances start expected patience).run_cases rounds 0
      (surveyed circumstances start 0 1) with
    ⟨last, inTime, before, met, ends⟩ | ⟨last, inTime, before, unmet, out, ends⟩ | ⟨before, ends⟩
  · obtain ⟨found, looked, _, _⟩ := round_surveys circumstances start expected patience last
    rw [vainBefore_unsettled] at before
    rw [waiting_worldAt] at met ends
    rw [looked, Nat.zero_add] at ends
    refine .inl ⟨last, inTime, before, found.mp met, ?_⟩
    rw [awaitTargets, Expected.await, StateT.run_bind, begins, ends]
    rfl
  · obtain ⟨found, _, _, elapsed⟩ := round_surveys circumstances start expected patience last
    rw [vainBefore_unsettled] at before
    rw [waiting_worldAt] at unmet out ends
    rw [elapsed] at out
    rw [waiting_gaveUp, Nat.zero_add] at ends
    have missed : ¬ expected.MetBy (circumstances.figure start last) := by
      rw [← found, unmet]
      exact Bool.false_ne_true
    refine .inr (.inl ⟨last, inTime, before, missed, out, ⟨_, _⟩, rfl, rfl, ?_⟩)
    rw [awaitTargets, Expected.await, StateT.run_bind, begins, ends]
    rfl
  · rw [vainBefore_unsettled] at before
    rw [waiting_worldAt] at ends
    refine .inr (.inr ⟨before, ?_⟩)
    rw [awaitTargets, Expected.await, StateT.run_bind, begins, ends]
    rfl

theorem count_still (floor : Floor K) (schedule : List Nat) (counter : Counter)
    (uncounted : .count counter ∉ floor.made schedule) :
    (floor.run schedule).recorder.stats.count counter = floor.recorder.stats.count counter := by
  have none : amount (Step.raises counter) (floor.made schedule) = 0 := by
    apply amount_zero
    intro step member
    cases step with
    | count other =>
        have differs : other ≠ counter := fun same => uncounted (same ▸ member)
        exact if_neg differs
    | _ => rfl
  rw [(floor.run_course schedule).count, none]
  exact UInt64.add_zero _

theorem counted_between (counter : Counter) {looks first second later : Nat} (opened : looks ≤ first)
    (forward : first ≤ second) (closed : second ≤ later)
    (apart : (start.run (circumstances.upTo first)).recorder.stats.count counter ≠
      (start.run (circumstances.upTo second)).recorder.stats.count counter) :
    .count counter ∈
      (start.run (circumstances.upTo looks)).made (circumstances.between looks later) := by
  have counted : .count counter ∈
      (start.run (circumstances.upTo first)).made (circumstances.between first second) := by
    by_contra uncounted
    apply apart
    rw [← circumstances.upTo_between forward, Floor.run_append]
    exact (count_still _ _ counter uncounted).symm
  rw [← circumstances.between_append opened (Nat.le_trans forward closed),
    ← circumstances.between_append forward closed, Floor.made_append, Floor.made_append,
    ← Floor.run_append, circumstances.upTo_between opened]
  exact List.mem_append_right _ (List.mem_append_left _ counted)

-- What an explanation finds met and the last poll did not was counted between the two, after the first
-- figure of the poll was read and before the last of the explanation.
theorem counted_late (last : Nat) (unmet : ¬ expected.MetBy (circumstances.figure start last))
    (met : expected.MetBy (circumstances.figure start (last + 1))) :
    ∃ target, expected.goal target ≠ 0 ∧ .count target.counter ∈
      (start.run (circumstances.upTo (last * Reading.all.length + 1))).made
        (circumstances.between (last * Reading.all.length + 1) ((last + 2) * Reading.all.length)) := by
  rw [Expected.MetBy, not_forall] at unmet
  obtain ⟨target, missed⟩ := unmet
  rw [not_or] at missed
  obtain ⟨checked, differs⟩ := missed
  have reached := (met target).resolve_left checked
  have inside := List.idxOf_lt_length_of_mem (Reading.mem_all (.counter target.counter))
  have next : (last + 1) * Reading.all.length = last * Reading.all.length + Reading.all.length :=
    Nat.succ_mul last _
  have afterNext : (last + 2) * Reading.all.length =
      (last + 1) * Reading.all.length + Reading.all.length := Nat.succ_mul (last + 1) _
  refine ⟨target, checked, counted_between circumstances start target.counter ?_ ?_ ?_ fun same =>
    differs (reached.trans same.symm)⟩
  · exact Nat.succ_le_succ (Nat.le_add_right _ _)
  · omega
  · omega

end Watch

variable [DecidableEq K] [Outlined K]

/-- How a wait for targets ends that begins on the floor `start` and takes so many rounds at most. -/
structure Watch.Settles (circumstances : Circumstances) (start : Floor K) (expected : Expected)
    (patience : Patience) (rounds : Nat) (outcome : Verdict × Watch K) : Prop where
  returns : ∀ poll, poll < rounds → expected.MetBy (circumstances.figure start poll) ∨
    patience.timeout ≤ circumstances.clock (poll + 1) - circumstances.clock 0 →
    outcome.1.EndsWithin (poll + 1)
  unchanged : outcome.2.floor = start.run (circumstances.upTo outcome.2.looks)
  met : ∀ polls, outcome.1 = .met polls → ∃ last, polls = last + 1 ∧
    UnsettledBefore circumstances start expected patience last ∧
    expected.MetBy (circumstances.figure start last) ∧ outcome.2.log = []
  timedOut : ∀ polls timeout, outcome.1 = .timedOut polls timeout → ∃ last, polls = last + 1 ∧
    UnsettledBefore circumstances start expected patience last ∧
    ¬ expected.MetBy (circumstances.figure start last) ∧
    patience.timeout ≤ timeout.elapsed ∧
    timeout.elapsed = circumstances.clock polls - circumstances.clock 0 ∧
    timeout.description = "events for CQ " ++ start.recorder.identity ++ " did not settle: " ++
      ", ".intercalate (expected.unmet (circumstances.figure start (last + 1))) ∧
    outcome.2.log.map (fun notice => (notice.level, notice.text)) =
      [(.warn, timeout.description ++ " (gave up after " ++ toString polls ++ " polls in " ++
          toString timeout.elapsed.millis ++ "ms)"),
        (.debug, "wait_for_events returning after timeout: " ++ (timeout.description ++
          " (timed out after " ++ toString timeout.elapsed.millis ++ "ms)"))]
  -- No target is named only if one was counted after the last poll began to read.
  blank : ∀ last timeout, outcome.1 = .timedOut (last + 1) timeout →
    expected.unmet (circumstances.figure start (last + 1)) = [] →
    ∃ target, expected.goal target ≠ 0 ∧ .count target.counter ∈
      (start.run (circumstances.upTo (last * Reading.all.length + 1))).made
        (circumstances.between (last * Reading.all.length + 1) ((last + 2) * Reading.all.length))
  -- Nothing is counted while the wait goes on.
  still : (∀ looks counter, .count counter ∉ start.made (circumstances.upTo looks)) → 0 < rounds →
    (outcome.1 = .met 1 ↔ expected.mismatches start.recorder.stats = []) ∧
    (∀ polls, outcome.1 = .met polls → polls = 1) ∧
    ∀ polls timeout, outcome.1 = .timedOut polls timeout →
      expected.unmet start.recorder.stats.count ≠ [] ∧
      timeout.description = "events for CQ " ++ start.recorder.identity ++ " did not settle: " ++
        ", ".intercalate (expected.unmet start.recorder.stats.count)

namespace Watch

theorem figure_still (circumstances : Circumstances) (start : Floor K)
    (still : ∀ looks counter, .count counter ∉ start.made (circumstances.upTo looks)) (survey : Nat) :
    circumstances.figure start survey = start.recorder.stats.count := by
  funext counter
  exact count_still start _ counter (still _ counter)

-- A wait is over by the first poll that ends it.
theorem UnsettledBefore.unless_over {circumstances : Circumstances} {start : Floor K}
    {expected : Expected} {patience : Patience} {last poll : Nat}
    (before : UnsettledBefore circumstances start expected patience last)
    (ended : expected.MetBy (circumstances.figure start poll) ∨
      patience.timeout ≤ circumstances.clock (poll + 1) - circumstances.clock 0) : last ≤ poll := by
  apply Nat.le_of_not_lt
  intro early
  obtain ⟨unmet, inTime⟩ := before poll early
  exact ended.elim unmet inTime

end Watch

end QueryRecorder
