import QueryRecorder.Proofs.Deadline

/-!
How a wait ends, and all that it does on the way. What its looks find and what its clock shows after
each of them decide the verdict, the number of looks and every sleep that is asked for. Nothing is
assumed of the answers or of the clock. A description is asked for only when the wait is given up, once
and after the last look, and only then is anything logged.
-/

namespace QueryRecorder

/-- What a wait asks of the world around it. -/
inductive Deed
  | looked (found : Bool)
  | timed
  | slept (asked : Duration)
  | described (text : String)
  | logged (notice : Notice)
  deriving DecidableEq

def Deed.pause? : Deed → Option Duration
  | slept asked => some asked
  | _ => none

/-- A world beside the deeds of a wait in it, in their order. -/
structure Traced (σ : Type) where
  world : σ
  deeds : List Deed

variable {σ : Type}

def Traced.record {α : Type} (deed : α → Deed) (act : StateM σ α) : StateM (Traced σ) α := fun traced =>
  ((act.run traced.world).1,
    ⟨(act.run traced.world).2, traced.deeds ++ [deed (act.run traced.world).1]⟩)

def Host.traced (host : Host σ) : Host (Traced σ) where
  now := Traced.record (fun _ => .timed) host.now
  sleep length := Traced.record (fun _ => .slept length) (host.sleep length)
  log notice := Traced.record (fun _ => .logged notice) (host.log notice)

def Criterion.traced (criterion : Criterion σ) : Criterion (Traced σ) where
  done := Traced.record .looked criterion.done
  description := Traced.record .described criterion.description

/-- What the looks of a wait find, and what its clock shows after each, the first look being number 1. -/
structure Findings where
  found : Nat → Bool
  elapsed : Nat → Duration

namespace Findings

variable (findings : Findings) (patience : Patience)

/-- Every look before the one with the number `n` finds nothing and leaves time for another. -/
def VainBefore (n : Nat) : Prop :=
  ∀ look, 1 ≤ look → look < n →
    findings.found look = false ∧ ¬ patience.timeout ≤ findings.elapsed look

def SucceedAt (n : Nat) : Prop :=
  1 ≤ n ∧ findings.found n = true ∧ findings.VainBefore patience n

def GiveUpAt (n : Nat) : Prop :=
  1 ≤ n ∧ findings.found n = false ∧ patience.timeout ≤ findings.elapsed n ∧
    findings.VainBefore patience n

def pause (n : Nat) : Duration := min patience.pollInterval (patience.timeout - findings.elapsed n)

def vainDeeds (rounds : Nat) : List Deed :=
  (List.range rounds).flatMap fun round =>
    [.looked false, .timed, .slept (findings.pause patience (round + 1))]

variable {findings patience}

theorem SucceedAt.unless_vain {n m : Nat} (succeeds : findings.SucceedAt patience n)
    (vain : findings.VainBefore patience m) : m ≤ n := by
  obtain ⟨begun, found, _⟩ := succeeds
  apply Nat.le_of_not_lt
  intro later
  rw [(vain n begun (by omega)).1] at found
  cases found

theorem GiveUpAt.unless_vain {n m : Nat} (givesUp : findings.GiveUpAt patience n)
    (vain : findings.VainBefore patience m) : m ≤ n := by
  obtain ⟨begun, _, out, _⟩ := givesUp
  apply Nat.le_of_not_lt
  intro later
  exact (vain n begun (by omega)).2 out

theorem SucceedAt.unique {n m : Nat} (one : findings.SucceedAt patience n)
    (other : findings.SucceedAt patience m) : n = m :=
  Nat.le_antisymm (other.unless_vain one.2.2) (one.unless_vain other.2.2)

theorem GiveUpAt.unique {n m : Nat} (one : findings.GiveUpAt patience n)
    (other : findings.GiveUpAt patience m) : n = m :=
  Nat.le_antisymm (other.unless_vain one.2.2.2) (one.unless_vain other.2.2.2)

-- A wait cannot end both ways.
theorem SucceedAt.not_giveUp {n m : Nat} (succeeds : findings.SucceedAt patience n)
    (givesUp : findings.GiveUpAt patience m) : False := by
  have same : n = m :=
    Nat.le_antisymm (givesUp.unless_vain succeeds.2.2) (succeeds.unless_vain givesUp.2.2.2)
  subst same
  have found := succeeds.2.1
  rw [givesUp.2.1] at found
  cases found

theorem vainDeeds_pauses (rounds : Nat) :
    (findings.vainDeeds patience rounds).filterMap Deed.pause? =
      (List.range rounds).map fun round => findings.pause patience (round + 1) := by
  induction rounds with
  | zero => rfl
  | succ rounds ih =>
      rw [vainDeeds, List.range_succ, List.flatMap_append, List.filterMap_append, ← vainDeeds, ih,
        List.map_append]
      rfl

end Findings

namespace Wait

variable (wait : Wait σ)

def traced : Wait (Traced σ) :=
  ⟨wait.host.traced, wait.criterion.traced, wait.patience, wait.start⟩

/-- The findings of the wait, if its first round begins in the world `first`. -/
structure Tells (first : σ) (findings : Findings) : Prop where
  looks : ∀ round, wait.found (wait.worldAt round first) = findings.found (round + 1)
  clock : ∀ round, wait.elapsed (wait.worldAt round first) = findings.elapsed (round + 1)

theorem traced_worldAt (round : Nat) (traced : Traced σ) :
    (wait.traced.worldAt round traced).world = wait.worldAt round traced.world := by
  induction round with
  | zero => rfl
  | succ round ih =>
      rw [worldAt_succ, worldAt_succ, ← ih]
      rfl

theorem traced_vainBefore (round : Nat) (traced : Traced σ) :
    wait.traced.VainBefore round traced ↔ wait.VainBefore round traced.world := by
  unfold VainBefore
  simp only [← traced_worldAt]
  rfl

theorem traced_found (round : Nat) (world : σ) (deeds : List Deed) :
    wait.traced.found (wait.traced.worldAt round ⟨world, deeds⟩) =
      wait.found (wait.worldAt round world) := by
  rw [← traced_worldAt wait round ⟨world, deeds⟩]
  rfl

theorem traced_elapsed (round : Nat) (world : σ) (deeds : List Deed) :
    wait.traced.elapsed (wait.traced.worldAt round ⟨world, deeds⟩) =
      wait.elapsed (wait.worldAt round world) := by
  rw [← traced_worldAt wait round ⟨world, deeds⟩]
  rfl

theorem traced_looked (traced : Traced σ) :
    (wait.traced.looked traced).deeds = traced.deeds ++ [.looked (wait.traced.found traced)] := rfl

-- The description is asked for before the notice is logged, and is the text of both.
theorem traced_gaveUp (polls : Nat) (traced : Traced σ) :
    ∃ text, (wait.traced.gaveUp polls traced).1 = .timedOut polls ⟨text, wait.traced.elapsed traced⟩ ∧
      (wait.traced.gaveUp polls traced).2.deeds = traced.deeds ++
        [.looked (wait.traced.found traced)] ++ [.timed] ++ [.described text] ++
        [.logged (.gaveUp text polls (wait.traced.elapsed traced))] :=
  ⟨_, rfl, rfl⟩

-- Whoever keeps account of the deeds of a wait changes nothing about it.
theorem traced_run (rounds polls : Nat) (world : σ) (deeds : List Deed) :
    wait.run rounds polls world =
      ((wait.traced.run rounds polls ⟨world, deeds⟩).1,
        (wait.traced.run rounds polls ⟨world, deeds⟩).2.world) := by
  induction rounds generalizing polls world deeds with
  | zero => rfl
  | succ rounds ih =>
      have found : wait.traced.found ⟨world, deeds⟩ = wait.found world := rfl
      have elapsed : wait.traced.elapsed ⟨world, deeds⟩ = wait.elapsed world := rfl
      have patience : wait.traced.patience = wait.patience := rfl
      rw [run_round, run_round, found, elapsed, patience]
      split
      · rfl
      · split
        · rfl
        · exact ih (polls + 1) (wait.slept world) _

section Tells

variable {wait} {first : σ} {findings : Findings} (told : wait.Tells first findings)

include told

theorem vainBefore_iff (n : Nat) :
    wait.VainBefore n first ↔ findings.VainBefore wait.patience (n + 1) := by
  constructor
  · intro vain look begun early
    obtain ⟨round, rfl⟩ : ∃ round, look = round + 1 := ⟨look - 1, by omega⟩
    rw [← told.looks, ← told.clock]
    exact vain round (by omega)
  · intro vain round early
    have look := vain (round + 1) (by omega) (by omega)
    rwa [← told.looks, ← told.clock] at look

-- The deeds of the rounds before the given one, as long as they are in vain.
theorem vain_deeds (round : Nat) (deeds : List Deed) (vain : wait.VainBefore round first) :
    (wait.traced.worldAt round ⟨first, deeds⟩).deeds =
      deeds ++ findings.vainDeeds wait.patience round := by
  induction round with
  | zero => simp [worldAt, Findings.vainDeeds]
  | succ round ih =>
      have here := vain round (Nat.lt_succ_self round)
      have pause : wait.pause (wait.worldAt round first) = findings.pause wait.patience (round + 1) := by
        rw [Wait.pause, told.clock, Findings.pause]
      have done (traced : Traced σ) : (wait.traced.slept traced).deeds =
          traced.deeds ++ [.looked (wait.found traced.world)] ++ [.timed] ++
            [.slept (wait.pause traced.world)] := rfl
      rw [worldAt_succ, done, traced_worldAt, here.1, pause,
        ih fun earlier early => vain earlier (Nat.lt_succ_of_lt early), Findings.vainDeeds,
        Findings.vainDeeds, List.range_succ, List.flatMap_append]
      simp

end Tells

end Wait

namespace Findings

/-- How a wait can end after so many rounds at most, and what it has done by then. -/
inductive Ending (findings : Findings) (patience : Patience) (rounds : Nat) :
    Verdict → List Deed → Prop
  | met (n : Nat) (inTime : n ≤ rounds) (succeeds : findings.SucceedAt patience n) :
      Ending findings patience rounds (.met n)
        (.timed :: findings.vainDeeds patience (n - 1) ++ [.looked true])
  | timedOut (n : Nat) (text : String) (inTime : n ≤ rounds) (givesUp : findings.GiveUpAt patience n) :
      Ending findings patience rounds (.timedOut n ⟨text, findings.elapsed n⟩)
        (.timed :: findings.vainDeeds patience (n - 1) ++
          [.looked false, .timed, .described text, .logged (.gaveUp text n (findings.elapsed n))])
  | unfinished (vain : findings.VainBefore patience (rounds + 1)) :
      Ending findings patience rounds .unfinished (.timed :: findings.vainDeeds patience rounds)

namespace Ending

variable {findings : Findings} {patience : Patience} {rounds : Nat} {verdict : Verdict}
  {deeds : List Deed} (ending : findings.Ending patience rounds verdict deeds)

include ending

theorem met_iff (n : Nat) : verdict = .met n ↔ n ≤ rounds ∧ findings.SucceedAt patience n := by
  cases ending with
  | met m inTime succeeds =>
      constructor
      · rintro ⟨⟩
        exact ⟨inTime, succeeds⟩
      · rintro ⟨_, other⟩
        rw [succeeds.unique other]
  | timedOut m text inTime givesUp =>
      exact ⟨nofun, fun other => (other.2.not_giveUp givesUp).elim⟩
  | unfinished vain =>
      refine ⟨nofun, fun other => ?_⟩
      have late := other.2.unless_vain vain
      omega

theorem timedOut_iff (n : Nat) :
    (∃ timeout, verdict = .timedOut n timeout) ↔ n ≤ rounds ∧ findings.GiveUpAt patience n := by
  cases ending with
  | met m inTime succeeds => exact ⟨nofun, fun other => (succeeds.not_giveUp other.2).elim⟩
  | timedOut m text inTime givesUp =>
      constructor
      · rintro ⟨timeout, ⟨⟩⟩
        exact ⟨inTime, givesUp⟩
      · rintro ⟨_, other⟩
        rw [givesUp.unique other]
        exact ⟨_, rfl⟩
  | unfinished vain =>
      refine ⟨nofun, fun other => ?_⟩
      have late := other.2.unless_vain vain
      omega

theorem unfinished_iff :
    verdict = .unfinished ↔
      ∀ n, n ≤ rounds → ¬ findings.SucceedAt patience n ∧ ¬ findings.GiveUpAt patience n := by
  cases ending with
  | met m inTime succeeds => exact ⟨nofun, fun none => ((none m inTime).1 succeeds).elim⟩
  | timedOut m text inTime givesUp => exact ⟨nofun, fun none => ((none m inTime).2 givesUp).elim⟩
  | unfinished vain =>
      refine ⟨fun _ n inTime => ⟨fun succeeds => ?_, fun givesUp => ?_⟩, fun _ => rfl⟩
      · have late := succeeds.unless_vain vain
        omega
      · have late := givesUp.unless_vain vain
        omega

theorem reported (n : Nat) (timeout : Timeout) (ended : verdict = .timedOut n timeout) :
    timeout.elapsed = findings.elapsed n := by
  subst ended
  cases ending
  rfl

theorem slept :
    ∃ vain, findings.VainBefore patience (vain + 1) ∧ deeds.filterMap Deed.pause? =
      (List.range vain).map fun round => findings.pause patience (round + 1) := by
  cases ending with
  | met n inTime succeeds =>
      obtain ⟨begun, _, vain⟩ := succeeds
      refine ⟨n - 1, by rwa [Nat.sub_add_cancel begun], ?_⟩
      rw [List.cons_append, List.filterMap_cons_none rfl, List.filterMap_append, vainDeeds_pauses]
      exact List.append_nil _
  | timedOut n text inTime givesUp =>
      obtain ⟨begun, _, _, vain⟩ := givesUp
      refine ⟨n - 1, by rwa [Nat.sub_add_cancel begun], ?_⟩
      rw [List.cons_append, List.filterMap_cons_none rfl, List.filterMap_append, vainDeeds_pauses]
      exact List.append_nil _
  | unfinished vain =>
      refine ⟨rounds, vain, ?_⟩
      rw [List.filterMap_cons_none rfl, vainDeeds_pauses]

end Ending

/-- What the findings decide about a wait of so many rounds at most: how it ends, and what it has done
by then, of which the account is kept in `traced`. -/
structure Decide (findings : Findings) (patience : Patience) (rounds : Nat) (outcome : Verdict × σ)
    (traced : Verdict × Traced σ) : Prop where
  same : outcome = (traced.1, traced.2.world)
  met_iff : ∀ n, outcome.1 = .met n ↔ n ≤ rounds ∧ findings.SucceedAt patience n
  timedOut_iff : ∀ n, (∃ timeout, outcome.1 = .timedOut n timeout) ↔
    n ≤ rounds ∧ findings.GiveUpAt patience n
  unfinished_iff : outcome.1 = .unfinished ↔
    ∀ n, n ≤ rounds → ¬ findings.SucceedAt patience n ∧ ¬ findings.GiveUpAt patience n
  met_deeds : ∀ n, outcome.1 = .met n →
    traced.2.deeds = .timed :: findings.vainDeeds patience (n - 1) ++ [.looked true]
  timedOut_deeds : ∀ n timeout, outcome.1 = .timedOut n timeout →
    timeout.elapsed = findings.elapsed n ∧
    ∃ notice : Notice, notice.level = .warn ∧
      notice.text = timeout.description ++ " (gave up after " ++ toString n ++ " polls in " ++
        toString (findings.elapsed n).millis ++ "ms)" ∧
      traced.2.deeds = .timed :: findings.vainDeeds patience (n - 1) ++
        [.looked false, .timed, .described timeout.description, .logged notice]
  unfinished_deeds : outcome.1 = .unfinished →
    traced.2.deeds = .timed :: findings.vainDeeds patience rounds
  -- The sleeps that were asked for, the first of them after look number 1.
  pauses : ∀ earlier pause, (traced.2.deeds.filterMap Deed.pause?)[earlier]? = some pause →
    ¬ patience.timeout ≤ findings.elapsed (earlier + 1) ∧
    pause = min patience.pollInterval (patience.timeout - findings.elapsed (earlier + 1)) ∧
    findings.elapsed (earlier + 1) + pause ≤ patience.timeout

-- A sleep that is asked for ends no later than at the deadline, as far as the clock has told.
theorem pause_within (findings : Findings) (patience : Patience) (n : Nat)
    (early : ¬ patience.timeout ≤ findings.elapsed n) :
    findings.elapsed n + findings.pause patience n ≤ patience.timeout := by
  simp only [Duration.le_iff, Duration.nanos_add, pause, Duration.nanos_min, Duration.nanos_sub]
    at early ⊢
  omega

theorem Ending.decide {findings : Findings} {patience : Patience} {rounds : Nat}
    {outcome : Verdict × σ} {traced : Verdict × Traced σ} (same : outcome = (traced.1, traced.2.world))
    (ending : findings.Ending patience rounds traced.1 traced.2.deeds) :
    findings.Decide patience rounds outcome traced := by
  subst same
  obtain ⟨verdict, world, deeds⟩ := traced
  constructor
  case same => rfl
  case met_iff => exact ending.met_iff
  case timedOut_iff => exact ending.timedOut_iff
  case unfinished_iff => exact ending.unfinished_iff
  case met_deeds =>
    rintro n ⟨⟩
    cases ending
    rfl
  case timedOut_deeds =>
    rintro n timeout ⟨⟩
    cases ending
    exact ⟨rfl, _, rfl, rfl, rfl⟩
  case unfinished_deeds =>
    rintro ⟨⟩
    cases ending
    rfl
  case pauses =>
    intro earlier pause asked
    obtain ⟨vain, before, slept⟩ := ending.slept
    rw [slept, List.getElem?_map, Option.map_eq_some_iff] at asked
    obtain ⟨round, inside, rfl⟩ := asked
    obtain ⟨early, rfl⟩ := List.getElem?_eq_some_iff.mp inside
    rw [List.length_range] at early
    rw [List.getElem_range]
    have inTime := (before (earlier + 1) (by omega) (by omega)).2
    exact ⟨inTime, rfl, findings.pause_within patience (earlier + 1) inTime⟩

end Findings

namespace Polling

open Wait

theorem run_ending (wait : Wait σ) (first : σ) (findings : Findings) (told : wait.Tells first findings)
    (rounds : Nat) :
    findings.Ending wait.patience rounds (wait.traced.run rounds 0 ⟨first, [.timed]⟩).1
      (wait.traced.run rounds 0 ⟨first, [.timed]⟩).2.deeds := by
  rcases wait.traced.run_cases rounds 0 ⟨first, [.timed]⟩ with
    ⟨last, inTime, before, met, ends⟩ | ⟨last, inTime, before, unmet, out, ends⟩ | ⟨before, ends⟩
  · rw [traced_vainBefore] at before
    have found := met
    rw [traced_found, told.looks] at found
    rw [ends, Nat.zero_add]
    dsimp only
    rw [traced_looked, vain_deeds told last _ before, met]
    exact .met (last + 1) inTime
      ⟨Nat.le_add_left 1 last, found, (vainBefore_iff told last).mp before⟩
  · rw [traced_vainBefore] at before
    have found := unmet
    rw [traced_found, told.looks] at found
    rw [traced_elapsed, told.clock] at out
    obtain ⟨text, verdict, deeds⟩ :=
      wait.traced_gaveUp (last + 1) (wait.traced.worldAt last ⟨first, [.timed]⟩)
    rw [traced_elapsed, told.clock] at verdict deeds
    rw [ends, Nat.zero_add, verdict, deeds, vain_deeds told last _ before, unmet]
    simp only [List.append_assoc, List.cons_append, List.nil_append]
    exact .timedOut (last + 1) text inTime
      ⟨Nat.le_add_left 1 last, found, out, (vainBefore_iff told last).mp before⟩
  · rw [traced_vainBefore] at before
    rw [ends]
    dsimp only
    rw [vain_deeds told rounds _ before]
    exact .unfinished ((vainBefore_iff told rounds).mp before)

/-- What the looks of a wait find and what its clock shows after each decides how it ends, what it does
and in which order. It goes on for ever if no look is the one to end it. -/
theorem pollUntil_decided (host : Host σ) (criterion : Criterion σ) (patience : Patience) (world : σ)
    (findings : Findings)
    (told : (begun host criterion patience world).Tells (host.now.run world).2 findings) :
    (∀ rounds, findings.Decide patience rounds ((pollUntil host criterion patience rounds).run world)
      ((pollUntil host.traced criterion.traced patience rounds).run ⟨world, []⟩)) ∧
    ((∀ rounds, ((pollUntil host criterion patience rounds).run world).1 = .unfinished) ↔
      ∀ n, ¬ findings.SucceedAt patience n ∧ ¬ findings.GiveUpAt patience n) := by
  have decided (rounds : Nat) : findings.Decide patience rounds
      ((pollUntil host criterion patience rounds).run world)
      ((pollUntil host.traced criterion.traced patience rounds).run ⟨world, []⟩) :=
    (run_ending (begun host criterion patience world) (host.now.run world).2 findings told rounds).decide
      ((begun host criterion patience world).traced_run rounds 0 (host.now.run world).2 [.timed])
  refine ⟨decided, ?_⟩
  constructor
  · intro going n
    exact (decided n).unfinished_iff.mp (going n) n (Nat.le_refl n)
  · intro none rounds
    exact (decided rounds).unfinished_iff.mpr fun n _ => none n

end Polling

/-- A world in which the answers to the looks and the readings of the clock are laid down. -/
structure Script where
  looks : Nat
  readings : Nat

namespace Script

-- The readings are told from the first, which is made when the wait begins.
def host (clock : Nat → Duration) : Host Script where
  now := fun script => (clock script.readings, { script with readings := script.readings + 1 })
  sleep := fun _ => pure ()
  log := fun _ => pure ()

-- The looks are told from number 1, the texts by the number of looks before them.
def criterion (found : Nat → Bool) (text : Nat → String) : Criterion Script where
  done := fun script => (found (script.looks + 1), { script with looks := script.looks + 1 })
  description := fun script => (text script.looks, script)

-- Whatever looks may find and a clock may show, there is a wait of which just that is true.
theorem told (found : Nat → Bool) (clock : Nat → Duration) (text : Nat → String) (patience : Patience) :
    (Wait.begun (host clock) (criterion found text) patience ⟨0, 0⟩).Tells ⟨0, 1⟩
      ⟨found, fun look => clock look - clock 0⟩ := by
  have reached (round : Nat) :
      (Wait.begun (host clock) (criterion found text) patience ⟨0, 0⟩).worldAt round ⟨0, 1⟩ =
        ⟨round, round + 1⟩ := by
    induction round with
    | zero => rfl
    | succ round ih =>
        rw [Wait.worldAt_succ, ih]
        rfl
  constructor
  case looks =>
    intro round
    rw [reached]
    rfl
  case clock =>
    intro round
    rw [reached]
    rfl

end Script

-- The clock shows 3.9 milliseconds more at each reading, and five are waited: the first sleep is cut short
-- to 1.1, and at the second look the deadline has gone by. What the third would find is never seen.
theorem Polling.pollUntil_decided_script :
    let findings : Findings := ⟨fun look => look == 3, fun look => ⟨3900000 * look⟩⟩
    let host : Host Script := Script.host fun reading => ⟨3900000 * reading⟩
    let criterion : Criterion Script :=
      Script.criterion findings.found fun looks => "none of " ++ toString looks
    let patience : Patience := ⟨.ofMillis 5, .ofMillis 4⟩
    let traced := (pollUntil host.traced criterion.traced patience 5).run ⟨⟨0, 0⟩, []⟩
    (Wait.begun host criterion patience ⟨0, 0⟩).Tells (host.now.run ⟨0, 0⟩).2 findings ∧
      findings.Decide patience 5 ((pollUntil host criterion patience 5).run ⟨0, 0⟩) traced ∧
      findings.GiveUpAt patience 2 ∧
      traced.2.deeds =
        [.timed, .looked false, .timed, .slept ⟨1100000⟩, .looked false, .timed,
          .described "none of 2", .logged (.gaveUp "none of 2" 2 ⟨7800000⟩)] ∧
      (Notice.gaveUp "none of 2" 2 ⟨7800000⟩).line =
        (.warn, "none of 2 (gave up after 2 polls in 7ms)") := by
  intro findings host criterion patience traced
  have told : (Wait.begun host criterion patience ⟨0, 0⟩).Tells (host.now.run ⟨0, 0⟩).2 findings :=
    Script.told findings.found (fun reading => ⟨3900000 * reading⟩) _ patience
  have decided := (pollUntil_decided host criterion patience ⟨0, 0⟩ findings told).1 5
  have ends : ((pollUntil host criterion patience 5).run ⟨0, 0⟩).1 =
      .timedOut 2 ⟨"none of 2", ⟨7800000⟩⟩ := by decide +kernel
  exact ⟨told, decided, ((decided.timedOut_iff 2).mp ⟨_, ends⟩).2, by decide +kernel, by decide +kernel⟩

end QueryRecorder
