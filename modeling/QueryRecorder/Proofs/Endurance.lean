import QueryRecorder.Proofs.Outcome
import Mathlib.Algebra.Ring.Nat

/-!
How long a wait lasts. A sleep is either a whole poll interval or goes up to the deadline. So if the
clock goes forward by no less than each sleep, the looks are no more than the intervals that fill the
timeout and one more, and the sleeps come to no more than the timeout. On a clock that goes forward by
just the sleeps, the numbers are exact.
-/

namespace QueryRecorder

/-- How many poll intervals fill the timeout, the last of them perhaps in part. -/
def Patience.intervals (patience : Patience) : Nat :=
  (patience.timeout.nanos + patience.pollInterval.nanos - 1) / patience.pollInterval.nanos

theorem Patience.intervals_le (patience : Patience) (polls : 0 < patience.pollInterval.nanos) (n : Nat) :
    patience.intervals ≤ n ↔ patience.timeout.nanos ≤ n * patience.pollInterval.nanos := by
  rw [intervals, ← Nat.lt_succ_iff, Nat.div_lt_iff_lt_mul polls, Nat.succ_mul]
  omega

/-- Whether a wait has ended, after so many looks at most. -/
def Verdict.EndsWithin (limit : Nat) : Verdict → Prop
  | met polls | timedOut polls _ => 1 ≤ polls ∧ polls ≤ limit
  | unfinished => False

namespace Findings

variable (findings : Findings) (patience : Patience)

/-- From one look to the next the clock goes forward by the sleep between them at least. -/
def Advance : Prop :=
  ∀ look, 1 ≤ look → findings.VainBefore patience (look + 1) →
    findings.elapsed look + findings.pause patience look ≤ findings.elapsed (look + 1)

/-- No time passes but in the sleeps, and none of them takes longer than asked. -/
structure Punctual : Prop where
  atOnce : findings.elapsed 1 = .zero
  asAsked : ∀ look, 1 ≤ look → findings.VainBefore patience (look + 1) →
    findings.elapsed (look + 1) = findings.elapsed look + findings.pause patience look

variable {findings patience}

theorem Punctual.advance (punctual : findings.Punctual patience) : findings.Advance patience := by
  intro look begun vain
  rw [punctual.asAsked look begun vain]
  exact Nat.le_refl _

theorem VainBefore.mono {n m : Nat} (vain : findings.VainBefore patience n) (fewer : m ≤ n) :
    findings.VainBefore patience m :=
  fun look begun early => vain look begun (Nat.lt_of_lt_of_le early fewer)

theorem VainBefore.one : findings.VainBefore patience 1 := by
  intro look begun early
  omega

theorem pause_nanos (look : Nat) :
    (findings.pause patience look).nanos =
      min patience.pollInterval.nanos (patience.timeout.nanos - (findings.elapsed look).nanos) := rfl

-- After so many rounds in vain as many intervals have gone by, or the whole timeout.
theorem elapsed_least (advance : findings.Advance patience) (rounds : Nat)
    (vain : findings.VainBefore patience (rounds + 1)) :
    min patience.timeout.nanos (rounds * patience.pollInterval.nanos) ≤
      (findings.elapsed (rounds + 1)).nanos := by
  induction rounds with
  | zero => simp
  | succ rounds ih =>
      have before := ih (vain.mono (Nat.le_succ _))
      have forward := advance (rounds + 1) (Nat.le_add_left 1 rounds) vain
      simp only [Duration.le_iff, Duration.nanos_add, pause_nanos] at forward
      rw [Nat.succ_mul]
      omega

theorem elapsed_exact (punctual : findings.Punctual patience) (rounds : Nat)
    (vain : findings.VainBefore patience (rounds + 1)) :
    (findings.elapsed (rounds + 1)).nanos =
      min patience.timeout.nanos (rounds * patience.pollInterval.nanos) := by
  induction rounds with
  | zero => simp [punctual.atOnce, Duration.zero]
  | succ rounds ih =>
      have before := ih (vain.mono (Nat.le_succ _))
      rw [punctual.asAsked (rounds + 1) (Nat.le_add_left 1 rounds) vain, Duration.nanos_add, pause_nanos,
        before, Nat.succ_mul]
      omega

theorem slept_least (advance : findings.Advance patience) (rounds : Nat)
    (vain : findings.VainBefore patience (rounds + 1)) :
    ((List.range rounds).map fun round => (findings.pause patience (round + 1)).nanos).sum ≤
      (findings.elapsed (rounds + 1)).nanos := by
  induction rounds with
  | zero => simp
  | succ rounds ih =>
      have before := ih (vain.mono (Nat.le_succ _))
      have forward := advance (rounds + 1) (Nat.le_add_left 1 rounds) vain
      simp only [Duration.le_iff, Duration.nanos_add] at forward
      simp only [List.range_succ, List.map_append, List.map_cons, List.map_nil, List.sum_append_nat,
        List.sum_cons, List.sum_nil]
      omega

-- The last of the sleeps goes up to the deadline at most.
theorem slept_within (advance : findings.Advance patience) (rounds : Nat)
    (vain : findings.VainBefore patience (rounds + 1)) :
    ((List.range rounds).map fun round => (findings.pause patience (round + 1)).nanos).sum ≤
      patience.timeout.nanos := by
  cases rounds with
  | zero => simp
  | succ rounds =>
      have before := slept_least advance rounds (vain.mono (Nat.le_succ _))
      have inTime := (vain (rounds + 1) (Nat.le_add_left 1 rounds) (Nat.lt_succ_self _)).2
      simp only [Duration.le_iff] at inTime
      simp only [List.range_succ, List.map_append, List.map_cons, List.map_nil, List.sum_append_nat,
        List.sum_cons, List.sum_nil, pause_nanos] at before ⊢
      omega

section Polls

variable (polls : 0 < patience.pollInterval.nanos)

include polls

theorem not_vain_after (advance : findings.Advance patience) :
    ¬ findings.VainBefore patience (patience.intervals + 2) := by
  intro vain
  have filled := (patience.intervals_le polls _).mp (Nat.le_refl patience.intervals)
  have least := elapsed_least advance patience.intervals (vain.mono (Nat.le_succ _))
  apply (vain (patience.intervals + 1) (Nat.le_add_left 1 _) (Nat.lt_succ_self _)).2
  rw [Duration.le_iff]
  omega

-- On a punctual clock the looks that find nothing leave time until the intervals are used up.
theorem Punctual.vain (punctual : findings.Punctual patience) (rounds : Nat)
    (none : ∀ look, 1 ≤ look → look ≤ rounds → findings.found look = false)
    (few : rounds ≤ patience.intervals) : findings.VainBefore patience (rounds + 1) := by
  induction rounds with
  | zero => exact VainBefore.one
  | succ rounds ih =>
      have before := ih (fun look begun early => none look begun (Nat.le_succ_of_le early))
        (Nat.le_of_succ_le few)
      have shown := elapsed_exact punctual rounds before
      have unfilled : ¬ patience.timeout.nanos ≤ rounds * patience.pollInterval.nanos :=
        fun filled => Nat.not_le_of_lt few ((patience.intervals_le polls rounds).mpr filled)
      intro look begun early
      rcases Nat.lt_or_eq_of_le (Nat.le_of_lt_succ early) with earlier | rfl
      · exact before look begun earlier
      · refine ⟨none _ begun (Nat.le_refl _), ?_⟩
        rw [Duration.le_iff, shown]
        omega

theorem Punctual.filled (punctual : findings.Punctual patience)
    (vain : findings.VainBefore patience (patience.intervals + 1)) :
    findings.elapsed (patience.intervals + 1) = patience.timeout := by
  have shown := elapsed_exact punctual patience.intervals vain
  have filled := (patience.intervals_le polls _).mp (Nat.le_refl patience.intervals)
  rw [Nat.min_eq_left filled] at shown
  exact congrArg Duration.mk shown

end Polls

theorem Ending.within {rounds : Nat} {verdict : Verdict} {deeds : List Deed}
    (ending : findings.Ending patience rounds verdict deeds) (limit : Nat) (enough : limit ≤ rounds)
    (stops : ¬ findings.VainBefore patience (limit + 1)) : verdict.EndsWithin limit := by
  have early (n : Nat) (vain : findings.VainBefore patience n) : n ≤ limit := by
    apply Nat.le_of_not_lt
    intro beyond
    exact stops (vain.mono beyond)
  cases ending with
  | met n inTime succeeds => exact ⟨succeeds.1, early n succeeds.2.2⟩
  | timedOut n text inTime givesUp => exact ⟨givesUp.1, early n givesUp.2.2.2⟩
  | unfinished vain => exact stops (vain.mono (Nat.succ_le_succ enough))

/-- What the findings tell of the number of looks, of the sleeps and of the end of a wait that is given
so many rounds, for each number of them. -/
structure Lasts (findings : Findings) (patience : Patience) {σ : Type}
    (outcome : Nat → Verdict) (traced : Nat → Verdict × Traced σ) : Prop where
  ends : 0 < patience.pollInterval.nanos → findings.Advance patience → ∀ rounds,
    patience.intervals + 1 ≤ rounds → (outcome rounds).EndsWithin (patience.intervals + 1)
  slept : findings.Advance patience → ∀ rounds,
    (((traced rounds).2.deeds.filterMap Deed.pause?).map Duration.nanos).sum ≤ patience.timeout.nanos
  -- The look after the `n`th is the first to find anything.
  punctual_found : 0 < patience.pollInterval.nanos → findings.Punctual patience → ∀ n,
    (∀ look, 1 ≤ look → look ≤ n → findings.found look = false) → findings.found (n + 1) = true →
    ∀ rounds, patience.intervals + 1 ≤ rounds → ∀ polls,
      (outcome rounds = .met polls ↔ polls = n + 1 ∧ n ≤ patience.intervals)
  punctual_unfound : 0 < patience.pollInterval.nanos → findings.Punctual patience →
    (∀ look, 1 ≤ look → findings.found look = false) → ∀ rounds, patience.intervals + 1 ≤ rounds →
    ∃ text, outcome rounds = .timedOut (patience.intervals + 1) ⟨text, patience.timeout⟩
  -- This holds of any poll interval, none at all included.
  reaches : ∀ look, 1 ≤ look → patience.timeout ≤ findings.elapsed look → ∀ rounds, look ≤ rounds →
    (outcome rounds).EndsWithin look

theorem Ending.lasts {σ : Type} (traced : Nat → Verdict × Traced σ)
    (ending : ∀ rounds, findings.Ending patience rounds (traced rounds).1 (traced rounds).2.deeds) :
    findings.Lasts patience (fun rounds => (traced rounds).1) traced := by
  have ends (polls : 0 < patience.pollInterval.nanos) (advance : findings.Advance patience)
      (rounds : Nat) (enough : patience.intervals + 1 ≤ rounds) :
      (traced rounds).1.EndsWithin (patience.intervals + 1) :=
    (ending rounds).within _ enough (not_vain_after polls advance)
  constructor
  case ends => exact ends
  case slept =>
    intro advance rounds
    obtain ⟨vain, before, slept⟩ := (ending rounds).slept
    rw [slept, List.map_map]
    exact slept_within advance vain before
  case punctual_found =>
    intro polls punctual n none found rounds enough looks
    constructor
    · intro met
      obtain ⟨_, begun, foundThen, before⟩ := ((ending rounds).met_iff looks).mp met
      have within := ends polls punctual.advance rounds enough
      rw [met] at within
      -- No earlier look finds anything, and no later one is made once something is found.
      have atLeast : n + 1 ≤ looks := by
        apply Nat.le_of_not_lt
        intro early
        rw [none looks begun (Nat.le_of_lt_succ early)] at foundThen
        cases foundThen
      have atMost : looks ≤ n + 1 := by
        apply Nat.le_of_not_lt
        intro late
        rw [(before (n + 1) (Nat.le_add_left 1 n) late).1] at found
        cases found
      obtain ⟨_, few⟩ := within
      omega
    · rintro ⟨rfl, few⟩
      exact ((ending rounds).met_iff (n + 1)).mpr
        ⟨by omega, Nat.le_add_left 1 n, found, punctual.vain polls n none few⟩
  case punctual_unfound =>
    intro polls punctual none rounds enough
    have before := punctual.vain polls patience.intervals (fun look begun _ => none look begun)
      (Nat.le_refl _)
    have filled := punctual.filled polls before
    have givesUp : findings.GiveUpAt patience (patience.intervals + 1) := by
      refine ⟨Nat.le_add_left 1 _, none _ (Nat.le_add_left 1 _), ?_, before⟩
      rw [filled]
      exact Nat.le_refl _
    obtain ⟨timeout, ended⟩ := ((ending rounds).timedOut_iff _).mpr ⟨enough, givesUp⟩
    have elapsed := (ending rounds).reported _ timeout ended
    rw [filled] at elapsed
    exact ⟨timeout.description, by rw [ended, ← elapsed]⟩
  case reaches =>
    intro look begun reached rounds enough
    exact (ending rounds).within look enough fun vain =>
      (vain look begun (Nat.lt_succ_self look)).2 reached

end Findings

namespace Polling

open Wait Findings

/-- A wait ends if its clock goes forward, after no more looks than its patience allows. -/
theorem pollUntil_lasts {σ : Type} (host : Host σ) (criterion : Criterion σ) (patience : Patience)
    (world : σ) (findings : Findings)
    (told : (begun host criterion patience world).Tells (host.now.run world).2 findings) :
    findings.Lasts patience (fun rounds => ((pollUntil host criterion patience rounds).run world).1)
      (fun rounds => (pollUntil host.traced criterion.traced patience rounds).run ⟨world, []⟩) := by
  have same : (fun rounds => ((pollUntil host criterion patience rounds).run world).1) =
      fun rounds => ((pollUntil host.traced criterion.traced patience rounds).run ⟨world, []⟩).1 := by
    funext rounds
    exact congrArg Prod.fst
      ((begun host criterion patience world).traced_run rounds 0 (host.now.run world).2 [.timed])
  rw [same]
  exact Ending.lasts _
    (run_ending (begun host criterion patience world) (host.now.run world).2 findings told)

-- Five nanoseconds are waited in intervals of three, on a punctual clock: looks after 0, 3 and 5. What
-- the third look is the first to find is found, and what none finds is given up at the deadline. On a
-- clock that stands still for two readings and jumps then, a wait that asks for no sleep ends as well.
theorem pollUntil_lasts_punctual :
    let clock : Nat → Duration := fun reading => ⟨min 5 (3 * (reading - 1))⟩
    let host : Host Script := Script.host clock
    let wait (found : Nat → Bool) : Verdict :=
      ((pollUntil host (Script.criterion found fun _ => "nothing") ⟨⟨5⟩, ⟨3⟩⟩ 3).run ⟨0, 0⟩).1
    let findings (found : Nat → Bool) : Findings := ⟨found, fun look => clock look - clock 0⟩
    (∀ found, (begun host (Script.criterion found fun _ => "nothing") ⟨⟨5⟩, ⟨3⟩⟩ ⟨0, 0⟩).Tells
        (host.now.run ⟨0, 0⟩).2 (findings found)) ∧
      (∀ found, (findings found).Punctual ⟨⟨5⟩, ⟨3⟩⟩) ∧
      wait (fun look => look == 3) = .met 3 ∧
      (∃ text, wait (fun _ => false) = .timedOut 3 ⟨text, ⟨5⟩⟩) ∧
      (((pollUntil (Script.host fun reading => ⟨5 * (reading - 2)⟩)
        (Script.criterion (fun _ => false) fun _ => "nothing") ⟨⟨5⟩, .zero⟩ 9).run ⟨0, 0⟩).1.EndsWithin
          3) := by
  intro clock host wait findings
  have told (found : Nat → Bool) := Script.told found clock (fun _ => "nothing") ⟨⟨5⟩, ⟨3⟩⟩
  have lasts (found : Nat → Bool) := pollUntil_lasts host (Script.criterion found fun _ => "nothing")
    ⟨⟨5⟩, ⟨3⟩⟩ ⟨0, 0⟩ (findings found) (told found)
  have punctual (found : Nat → Bool) : (findings found).Punctual ⟨⟨5⟩, ⟨3⟩⟩ := by
    constructor
    case atOnce => rfl
    case asAsked =>
      intro look begun _
      refine congrArg Duration.mk ?_
      simp only [findings, clock, Duration.nanos_sub, Findings.pause_nanos]
      omega
  have jumping := pollUntil_lasts (Script.host fun reading => ⟨5 * (reading - 2)⟩)
    (Script.criterion (fun _ => false) fun _ => "nothing") ⟨⟨5⟩, .zero⟩ ⟨0, 0⟩ _
    (Script.told (fun _ => false) (fun reading => ⟨5 * (reading - 2)⟩) (fun _ => "nothing") ⟨⟨5⟩, .zero⟩)
  refine ⟨told, punctual, ?_, ?_, ?_⟩
  · refine ((lasts _).punctual_found (by decide) (punctual _) 2 ?_ rfl 3 (by decide) 3).mpr
      ⟨rfl, by decide⟩
    intro look _ early
    exact beq_false_of_ne (by omega)
  · exact (lasts _).punctual_unfound (by decide) (punctual _) (fun _ _ => rfl) 3 (by decide)
  · exact jumping.reaches 3 (by decide) (by decide) 9 (by decide)

end Polling

end QueryRecorder
