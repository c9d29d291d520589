import QueryRecorder.Proofs.Turns

/-!
Two moments of one run. From the earlier to the later a counter grows by the steps in between that raise
it, and what was on record has gone only if one of them took it off. At any moment some workers are in
the middle of a delivery: they have begun a call that is no reset and have not made its last step.
-/

namespace QueryRecorder

variable {K : Type}

/-- Whether a delivery makes such a step after its first. -/
def Step.isInner : Step K → Bool
  | count .total | count .connects | count .disconnects => false
  | setFlag .closed _ | clear _ | read _ => false
  | _ => true

/-- Whether the steps left to make begin in the middle of a delivery. -/
def underWay (todo : List (Step K)) : Bool := todo.head?.any Step.isInner

def Worker.isDelivering (worker : Worker K) : Bool := underWay worker.todo

def Floor.inFlight (floor : Floor K) : Nat := floor.workers.countP Worker.isDelivering

theorem event_inner (event : Event K) :
    ∀ step ∈ event.historySteps ++ event.baseSteps ++ event.querySteps, step.isInner = true := by
  obtain ⟨base, query, key, error⟩ := event
  intro step member
  simp only [Event.historySteps, Event.baseSteps, Event.querySteps, Event.keepSteps,
    List.mem_append] at member
  rcases member with (ordered | counted | kept) | (counted | flagged)
  · split at ordered
    · simp only [List.mem_cons, List.not_mem_nil, or_false] at ordered
      rcases ordered with rfl | rfl <;> rfl
    · simp at ordered
  · cases base <;> simp [Operation.baseCounters] at counted <;> rcases counted with rfl | rfl <;> rfl
  · split at kept
    · rw [List.mem_singleton.mp kept]
      rfl
    · simp at kept
  · cases query <;> simp [Operation.queryCounter?] at counted <;> subst counted <;> rfl
  · cases query <;> simp [Operation.queryFlag?] at flagged <;> subst flagged <;> rfl

-- The first step of a delivery is one that no delivery makes later on.
theorem delivery_inner (call : Call K) (delivery : call.isReset = false) :
    ∃ first rest, call.steps = first :: rest ∧ first.isInner = false ∧
      ∀ step ∈ rest, step.isInner = true := by
  cases call with
  | event event =>
      refine ⟨_, _, rfl, rfl, ?_⟩
      intro step member
      rcases List.mem_cons.mp member with rfl | later
      · rfl
      · exact event_inner event step later
  | reset => cases delivery
  | _ => exact ⟨_, _, rfl, rfl, by simp [Step.isInner]⟩

theorem reset_inner : ∀ step ∈ (Call.reset : Call K).steps, step.isInner = false := by
  simp [Call.steps, Step.isInner]

-- No call begins with a step of that kind.
theorem calls_outer (calls : List (Call K)) : underWay (calls.flatMap Call.steps) = false := by
  cases calls with
  | nil => rfl
  | cons call rest => cases call <;> rfl

/-- A delivery is under way if some of its steps have been made and others are left. -/
theorem underWay_iff (call : Call K) (begun left : List (Step K)) (calls : List (Call K))
    (split : call.steps = begun ++ left) :
    underWay (left ++ calls.flatMap Call.steps) = true ↔
      call.isReset = false ∧ begun ≠ [] ∧ left ≠ [] := by
  cases left with
  | nil => simp [calls_outer]
  | cons next rest =>
      have member : next ∈ call.steps := by simp [split]
      cases delivery : call.isReset with
      | true =>
          have outer : next.isInner = false := by
            cases call with
            | reset => exact reset_inner next member
            | _ => cases delivery
          simp [underWay, outer]
      | false =>
          obtain ⟨first, later, steps, outer, inner⟩ := delivery_inner call delivery
          rw [steps] at split
          cases begun with
          | nil =>
              obtain ⟨rfl, _⟩ := List.cons.inj split
              simp [underWay, outer]
          | cons made begun =>
              obtain ⟨rfl, rfl⟩ := List.cons.inj split
              simp [underWay, inner next (by simp)]

theorem Course.reads [DecidableEq K] {recorder last : Recorder K} {steps : List (Step K)}
    (course : Course recorder steps last) (reads : ∀ step ∈ steps, ∃ reading, step = .read reading) :
    last = recorder := by
  induction course with
  | rest => rfl
  | step hand step _ ih =>
      obtain ⟨reading, rfl⟩ := reads step List.mem_cons_self
      exact ih fun later member => reads later (List.mem_cons_of_mem _ member)

namespace Floor

variable [DecidableEq K] [Outlined K] (floor : Floor K) (schedule later : List Nat)

section Counts

variable (counter : Counter)
  (few : (floor.recorder.stats.count counter).toNat + amount (Step.raises counter) floor.pending < 2 ^ 64)

include few

-- A counter that does not wrap, whatever is made, has grown by what was made.
theorem run_count :
    ((floor.run schedule).recorder.stats.count counter).toNat =
      (floor.recorder.stats.count counter).toNat + amount (Step.raises counter) (floor.made schedule) := by
  have all := amount_perm (Step.raises counter) (floor.run_pending schedule)
  rw [amount_append] at all
  rw [(floor.run_course schedule).count, UInt64.toNat_add, UInt64.toNat_ofNat', Nat.add_mod_mod,
    Nat.mod_eq_of_lt (by omega)]

theorem counts_grow :
    ((floor.run (schedule ++ later)).recorder.stats.count counter).toNat =
      ((floor.run schedule).recorder.stats.count counter).toNat +
        amount (Step.raises counter) ((floor.run schedule).made later) := by
  rw [floor.run_count (schedule ++ later) counter few, floor.run_count schedule counter few, made_append,
    amount_append, Nat.add_assoc]

theorem counts_le :
    (floor.run schedule).recorder.stats.count counter ≤
      (floor.run (schedule ++ later)).recorder.stats.count counter := by
  rw [UInt64.le_iff_toNat_le, floor.counts_grow schedule later counter few]
  exact Nat.le_add_right _ _

end Counts

section Marks

variable (spares : ∀ step ∈ floor.pending, step.sparesRegions = true) (mark : Mark K)
  (on : mark.isOn (floor.run schedule).recorder = true)

include spares on

/-- What goes off the record is taken off by a step. -/
theorem marks_lost (off : mark.isOn (floor.run (schedule ++ later)).recorder = false) :
    ∃ step ∈ (floor.run schedule).made later, mark.clearedAt step = true := by
  have spared : ∀ step ∈ (floor.run schedule).made later, step.sparesRegions = true := by
    intro step member
    apply spares step
    apply floor.mem_made (schedule ++ later)
    rw [made_append]
    exact List.mem_append_right _ member
  by_contra none
  have stays : ∀ step ∈ (floor.run schedule).made later, mark.clearedAt step = false := by
    intro step member
    by_contra cleared
    exact none ⟨step, member, by simpa using cleared⟩
  rw [run_append, ((floor.run schedule).run_course later).isOn mark spared, on,
    latch_never_off _ _ _ _ stays] at off
  cases off

theorem marks_stay (lasts : ∀ step, mark.clearedAt step = false) :
    mark.isOn (floor.run (schedule ++ later)).recorder = true := by
  by_contra off
  obtain ⟨step, _, cleared⟩ :=
    floor.marks_lost schedule later spares mark on (by simpa using off)
  rw [lasts step] at cleared
  cases cleared

end Marks

end Floor

end QueryRecorder
