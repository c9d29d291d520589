import QueryRecorder.Expected
import Mathlib.Logic.Basic

/-!
Targets and the figures they are compared with. A target that is not zero and differs from its figure is
a mismatch, and mismatches are listed in a fixed order; the targets are met when there is none. Of goals
set one after another the last one for each target counts.
-/

namespace QueryRecorder

/-- The goal that was set last for a target, or zero if none was set. -/
def Target.lastSet (goals : List (Target × UInt64)) (target : Target) : UInt64 :=
  ((goals.filter fun goal => goal.1 = target).getLast?.map (·.2)).getD 0

namespace Expected

variable (expected : Expected)

/-- Whether figures meet every target that is not zero. -/
def MetBy (figure : Counter → UInt64) : Prop :=
  ∀ target, expected.goal target = 0 ∨ expected.goal target = figure target.counter

/-- A line for each target that is not zero and differs from its figure. -/
def unmet (figure : Counter → UInt64) : List String :=
  (Target.all.filter fun target =>
      expected.goal target ≠ 0 ∧ expected.goal target ≠ figure target.counter).map
    fun target => target.label ++ " expected: " ++ toString (expected.goal target).toNat ++
      " received: " ++ toString (figure target.counter).toNat

def missed (stats : Stats) : List Target :=
  Target.all.filter fun target =>
    expected.goal target ≠ 0 ∧ expected.goal target ≠ stats.count target.counter

theorem ext_goals (a b : Expected) (goals : ∀ target, a.goal target = b.goal target) : a = b := by
  cases a
  cases b
  simp only [Expected.mk.injEq]
  exact ⟨goals .creates, goals .updates, goals .deletes, goals .queryInserts, goals .queryUpdates,
    goals .queryDeletes, goals .total⟩

theorem isMetBy_iff (stats : Stats) : expected.isMetBy stats = true ↔ expected.MetBy stats.count := by
  simp only [isMetBy, List.all_eq_true, Bool.or_eq_true, beq_iff_eq, MetBy]
  exact ⟨fun each target => each target target.mem_all, fun each target _ => each target⟩

theorem mem_missed (stats : Stats) (target : Target) :
    target ∈ expected.missed stats ↔
      expected.goal target ≠ 0 ∧ expected.goal target ≠ stats.count target.counter := by
  simp [missed, target.mem_all]

theorem mismatches_eq (stats : Stats) :
    expected.mismatches stats = (expected.missed stats).map fun target =>
      ⟨target, expected.goal target, stats.count target.counter⟩ := by
  unfold mismatches missed
  induction Target.all with
  | nil => rfl
  | cons target rest ih =>
      by_cases differs : expected.goal target ≠ 0 ∧ expected.goal target ≠ stats.count target.counter
      · have found : expected.mismatch? stats target =
            some ⟨target, expected.goal target, stats.count target.counter⟩ := if_pos differs
        rw [List.filterMap_cons_some found, List.filter_cons_of_pos (by simpa using differs), ih]
        rfl
      · have found : expected.mismatch? stats target = none := if_neg differs
        rw [List.filterMap_cons_none found, List.filter_cons_of_neg (by simpa using differs), ih]

theorem mismatches_text (stats : Stats) :
    (expected.mismatches stats).map Mismatch.text = expected.unmet stats.count := by
  rw [mismatches_eq, List.map_map]
  rfl

theorem unmet_nil_iff (figure : Counter → UInt64) :
    expected.unmet figure = [] ↔ expected.MetBy figure := by
  rw [unmet, List.map_eq_nil_iff, List.filter_eq_nil_iff]
  constructor
  · intro none target
    have met := none target target.mem_all
    simp only [decide_eq_true_eq, not_and_or, not_not] at met
    exact met
  · intro met target _
    simp only [decide_eq_true_eq, not_and_or, not_not]
    exact met target

theorem isMetBy_iff_none (stats : Stats) :
    expected.isMetBy stats = true ↔ expected.mismatches stats = [] := by
  rw [isMetBy_iff, ← unmet_nil_iff, ← mismatches_text, List.map_eq_nil_iff]

theorem mem_mismatches (stats : Stats) (mismatch : Mismatch) :
    mismatch ∈ expected.mismatches stats ↔
      mismatch.expected = expected.goal mismatch.target ∧
        mismatch.received = stats.count mismatch.target.counter ∧
        mismatch.expected ≠ 0 ∧ mismatch.expected ≠ mismatch.received := by
  obtain ⟨target, goal, received⟩ := mismatch
  rw [mismatches_eq, List.mem_map]
  constructor
  · rintro ⟨found, member, same⟩
    cases same
    exact ⟨rfl, rfl, (expected.mem_missed stats target).mp member⟩
  · rintro ⟨goalIs, receivedIs, differs⟩
    dsimp only at goalIs receivedIs differs
    subst goalIs receivedIs
    exact ⟨target, (expected.mem_missed stats target).mpr differs, rfl⟩

theorem goal_zero (target : Target) : zero.goal target = 0 := by
  cases target <;> rfl

-- A goal that is set takes the place of those set before for its target, and of no other.
theorem goal_ofGoals (goals : List (Target × UInt64)) (target : Target) :
    (ofGoals goals).goal target = Target.lastSet goals target := by
  suffices set : ∀ start : Expected,
      (goals.foldl (fun expected goal => expected.setGoal goal.1 goal.2) start).goal target =
        ((goals.filter fun goal => goal.1 = target).getLast?.map (·.2)).getD (start.goal target) by
    rw [ofGoals, set, goal_zero, Target.lastSet]
  induction goals with
  | nil => exact fun start => rfl
  | cons goal rest ih =>
      intro start
      rw [List.foldl_cons, ih, goal_setGoal]
      by_cases same : goal.1 = target
      · rw [List.filter_cons_of_pos (by simpa using same), List.getLast?_cons, if_pos same.symm]
        cases (rest.filter fun goal => goal.1 = target).getLast? <;> rfl
      · rw [List.filter_cons_of_neg (by simpa using same), if_neg (Ne.symm same)]

/-- What is compared: the name of each counter, the goal for it and its figure. -/
def compared (goal : Target → UInt64) (stats : Stats) : List (String × UInt64 × UInt64) :=
  [("creates", goal .creates, stats.creates), ("updates", goal .updates, stats.updates),
   ("deletes", goal .deletes, stats.deletes), ("query inserts", goal .queryInserts, stats.queryInserts),
   ("query updates", goal .queryUpdates, stats.queryUpdates),
   ("query deletes", goal .queryDeletes, stats.queryDeletes), ("total", goal .total, stats.total)]

theorem compared_eq (stats : Stats) :
    compared expected.goal stats = Target.all.map fun target =>
      (target.label, expected.goal target, stats.count target.counter) := rfl

theorem unmet_compared (stats : Stats) :
    expected.unmet stats.count =
      ((compared expected.goal stats).filter fun line => line.2.1 ≠ 0 ∧ line.2.1 ≠ line.2.2).map
        fun line => line.1 ++ " expected: " ++ toString line.2.1.toNat ++ " received: " ++
          toString line.2.2.toNat := by
  rw [compared_eq, List.filter_map, List.map_map]
  rfl

/-- How goals that were set one after another compare with figures. -/
structure Compares (goals : List (Target × UInt64)) (stats : Stats) : Prop where
  effective : ∀ target, (ofGoals goals).goal target = Target.lastSet goals target
  lines : ((ofGoals goals).mismatches stats).map Mismatch.text =
    ((compared (Target.lastSet goals) stats).filter fun line =>
      line.2.1 ≠ 0 ∧ line.2.1 ≠ line.2.2).map fun line =>
        line.1 ++ " expected: " ++ toString line.2.1.toNat ++ " received: " ++ toString line.2.2.toNat
  mismatched : ∀ mismatch, mismatch ∈ (ofGoals goals).mismatches stats ↔
    mismatch.expected = Target.lastSet goals mismatch.target ∧
      mismatch.received = stats.count mismatch.target.counter ∧
      mismatch.expected ≠ 0 ∧ mismatch.expected ≠ mismatch.received
  ordered : (((ofGoals goals).mismatches stats).map (·.target)).Sublist
    [.creates, .updates, .deletes, .queryInserts, .queryUpdates, .queryDeletes, .total]
  met : (ofGoals goals).isMetBy stats = true ↔ (ofGoals goals).mismatches stats = []
  unread : ∀ other : Stats, other.creates = stats.creates → other.updates = stats.updates →
    other.deletes = stats.deletes → other.queryInserts = stats.queryInserts →
    other.queryUpdates = stats.queryUpdates → other.queryDeletes = stats.queryDeletes →
    other.total = stats.total →
    (ofGoals goals).isMetBy other = (ofGoals goals).isMetBy stats ∧
      (ofGoals goals).mismatches other = (ofGoals goals).mismatches stats
  settled : ∀ others, (∀ target, Target.lastSet others target = Target.lastSet goals target) →
    ofGoals others = ofGoals goals

/-- Whether targets are met and which are missed is one comparison of the goals set last with seven of
the figures. -/
theorem goals_compare (goals : List (Target × UInt64)) (stats : Stats) : Compares goals stats := by
  have effective : (ofGoals goals).goal = Target.lastSet goals := funext (goal_ofGoals goals)
  constructor
  case effective => exact goal_ofGoals goals
  case lines => rw [mismatches_text, unmet_compared, effective]
  case mismatched =>
    intro mismatch
    rw [mem_mismatches, effective]
  case ordered =>
    have targets : ((ofGoals goals).mismatches stats).map (·.target) = (ofGoals goals).missed stats := by
      rw [mismatches_eq, List.map_map]
      exact List.map_id _
    rw [targets]
    exact List.filter_sublist
  case met => exact isMetBy_iff_none _ stats
  case unread =>
    intro other creates updates deletes queryInserts queryUpdates queryDeletes total
    have same (target : Target) : other.count target.counter = stats.count target.counter := by
      cases target <;> assumption
    have alike : (ofGoals goals).mismatch? other = (ofGoals goals).mismatch? stats := by
      funext target
      simp only [mismatch?, same]
    simp only [isMetBy, mismatches, same, alike, and_self]
  case settled =>
    intro others last
    apply ext_goals
    intro target
    rw [goal_ofGoals, goal_ofGoals, last]

end Expected

end QueryRecorder
