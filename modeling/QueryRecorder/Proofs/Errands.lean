import QueryRecorder.Proofs.Moments

/-!
Errands: what a thread is sent to do on a floor, calls and surveys in any order. A delivery raises the
total with its first step and is sorted by its kind with a later one. So the total is ahead of the
counters of the kinds by the deliveries in progress, and by the events that are of no kind.
-/

namespace QueryRecorder

variable {K : Type}

/-- What a thread is sent to do on a floor. -/
inductive Errand (K : Type)
  | call (call : Call K)
  | survey

def Errand.steps : Errand K → List (Step K)
  | .call sent => sent.steps
  | .survey => Reading.all.map .read

def Errand.call? : Errand K → Option (Call K)
  | .call sent => some sent
  | .survey => none

def Worker.ofErrands (errands : List (Errand K)) : Worker K := ofSteps (errands.flatMap Errand.steps)

theorem Errand.survey_steps (step : Step K) (member : step ∈ (survey : Errand K).steps) :
    ∃ reading, step = .read reading := by
  obtain ⟨reading, _, rfl⟩ := List.mem_map.mp member
  exact ⟨reading, rfl⟩

theorem Worker.ofErrands_calls (calls : List (Call K)) : ofErrands (calls.map .call) = ofCalls calls := by
  rw [ofErrands, List.flatMap_map]
  rfl

/-- Tells of an event whose base operation raises no counter. -/
def Step.classless : Step K → Nat
  | announce (.event event) => if event.base.baseCounters.isEmpty then 1 else 0
  | _ => 0

/-- What a call that raises the total comes to, once in all its steps. -/
def Step.sorts (step : Step K) : Nat :=
  step.raises .creates + step.raises .updates + step.raises .deletes + step.raises .errors +
    step.classless

theorem amount_sorts (steps : List (Step K)) :
    amount Step.sorts steps =
      amount (Step.raises .creates) steps + amount (Step.raises .updates) steps +
        amount (Step.raises .deletes) steps + amount (Step.raises .errors) steps +
        amount Step.classless steps := by
  change amount (fun step => step.raises .creates + step.raises .updates + step.raises .deletes +
    step.raises .errors + step.classless) steps = _
  simp only [amount_add]

theorem event_classless (event : Event K) :
    amount Step.classless (Call.event event).steps = if event.base.baseCounters.isEmpty then 1 else 0 := by
  have later : amount Step.classless (event.historySteps ++ (event.baseSteps ++ event.querySteps)) = 0 := by
    apply amount_zero
    intro step member
    rcases List.mem_append.mp member with ordered | classified
    · unfold Event.historySteps at ordered
      split at ordered <;> simp at ordered
      rcases ordered with rfl | rfl <;> rfl
    · rcases classified_step event step classified with ⟨counter, rfl⟩ | ⟨bucket, key, rfl⟩ | ⟨flag, rfl⟩ <;>
        rfl
  rw [Call.steps, amount_cons, amount_cons, List.append_assoc, later]
  exact Nat.zero_add _

theorem call_sorts (call : Call K) :
    amount Step.sorts call.steps = amount (Step.raises .total) call.steps := by
  rw [amount_sorts]
  simp only [call_raises]
  cases call with
  | event event =>
      rw [event_classless]
      cases base : event.base <;> simp [Counter.counts, Operation.baseCounters, base]
  | _ => simp [Counter.counts, amount, Call.steps, Step.classless]

theorem errand_sorts (errand : Errand K) :
    amount Step.sorts errand.steps = amount (Step.raises .total) errand.steps := by
  cases errand with
  | call sent => exact call_sorts sent
  | survey => rfl

theorem errands_sort (errands : List (Errand K)) :
    amount Step.sorts (errands.flatMap Errand.steps) =
      amount (Step.raises .total) (errands.flatMap Errand.steps) := by
  induction errands with
  | nil => rfl
  | cons errand rest ih => rw [List.flatMap_cons, amount_append, amount_append, errand_sorts, ih]

/-- Steps of a delivery under way may come to one more than they raise the total by. -/
def Settled (todo : List (Step K)) : Prop :=
  amount Step.sorts todo ≤ amount (Step.raises .total) todo + if underWay todo then 1 else 0

theorem call_settled (call : Call K) (todo : List (Step K)) (left : todo <:+ call.steps) :
    Settled todo := by
  cases todo with
  | nil => exact Nat.zero_le _
  | cons next later =>
      cases delivery : call.isReset with
      | false =>
          obtain ⟨first, rest, steps, outer, inner⟩ := delivery_inner call delivery
          have sorts := call_sorts call
          have raises := call_raises .total call
          rw [steps] at left sorts raises
          rcases List.suffix_cons_iff.mp left with whole | begun
          · rw [Settled, whole, sorts]
            exact Nat.le_add_right _ _
          · -- The first step is made: one delivery is under way, and no call comes to more than one.
            have going : underWay (next :: later) = true := by
              simp [underWay, inner next (begun.subset List.mem_cons_self)]
            have part : amount Step.sorts (next :: later) ≤ amount Step.sorts (first :: rest) := by
              obtain ⟨front, whole⟩ := left
              rw [← whole, amount_append]
              exact Nat.le_add_left _ _
            rw [Settled, going, if_pos rfl]
            split at raises <;> omega
      | true =>
          have nothing : amount Step.sorts (next :: later) = 0 := by
            apply amount_zero
            intro step member
            cases call with
            | reset =>
                have among := left.subset member
                simp only [Call.steps, List.mem_cons, List.not_mem_nil, or_false] at among
                rcases among with rfl | rfl | rfl | rfl | rfl <;> rfl
            | _ => cases delivery
          rw [Settled, nothing]
          exact Nat.zero_le _

theorem errand_settled (errand : Errand K) (todo : List (Step K)) (left : todo <:+ errand.steps) :
    Settled todo := by
  cases errand with
  | call sent => exact call_settled sent todo left
  | survey =>
      have nothing : amount Step.sorts todo = 0 := by
        apply amount_zero
        intro step member
        obtain ⟨reading, rfl⟩ := Errand.survey_steps step (left.subset member)
        rfl
      rw [Settled, nothing]
      exact Nat.zero_le _

theorem errands_settled (errands : List (Errand K)) (todo : List (Step K))
    (left : todo <:+ errands.flatMap Errand.steps) : Settled todo := by
  induction errands with
  | nil =>
      rw [List.suffix_nil.mp left]
      exact Nat.zero_le _
  | cons errand rest ih =>
      rw [List.flatMap_cons] at left
      -- What is left reaches into the first errand or not.
      rcases List.suffix_or_suffix_of_suffix left (List.suffix_append _ _) with inRest | ⟨part, rfl⟩
      · exact ih inRest
      · have first := errand_settled errand part ((List.suffix_append_inj_of_length_eq rfl).mp left).1
        have after := errands_sort rest
        cases part with
        | nil => exact ih (List.suffix_refl _)
        | cons next later =>
            have same : underWay (next :: later ++ rest.flatMap Errand.steps) =
                underWay (next :: later) := rfl
            rw [Settled] at first ⊢
            rw [amount_append, amount_append, after, same]
            omega

namespace Floor

theorem pending_settled (workers : List (Worker K)) (each : ∀ worker ∈ workers, Settled worker.todo) :
    amount Step.sorts (workers.flatMap (·.todo)) ≤
      amount (Step.raises .total) (workers.flatMap (·.todo)) + workers.countP Worker.isDelivering := by
  induction workers with
  | nil => exact Nat.le_refl 0
  | cons worker rest ih =>
      have here : Settled worker.todo := each worker List.mem_cons_self
      have tail := ih fun other member => each other (List.mem_cons_of_mem worker member)
      rw [Settled] at here
      rw [List.flatMap_cons, amount_append, amount_append, List.countP_cons, Worker.isDelivering]
      omega

/-- Threads that run errands on a new record. -/
def ofErrands (name : String) (user : Option String) (patience : Patience)
    (threads : List (List (Errand K))) : Floor K :=
  start (.unused name user patience) (threads.map Worker.ofErrands)

section Errands

variable (name : String) (user : Option String) (patience : Patience)
  (threads : List (List (Errand K)))

theorem ofErrands_calls (threads : List (List (Call K))) :
    ofErrands name user patience (threads.map fun calls => calls.map .call) =
      ofThreads name user patience threads := by
  have workers : (threads.map fun calls => calls.map Errand.call).map Worker.ofErrands =
      threads.map Worker.ofCalls := by
    rw [List.map_map]
    exact List.map_congr_left fun calls _ => Worker.ofErrands_calls calls
  rw [ofErrands, ofThreads, workers]

theorem ofErrands_recorder :
    (ofErrands name user patience threads).recorder = .unused name user patience := rfl

theorem ofErrands_pending :
    (ofErrands name user patience threads).pending = threads.flatten.flatMap Errand.steps := by
  simp only [ofErrands, start, pending, List.flatMap_map]
  rw [List.flatten_eq_flatMap, List.flatMap_assoc]
  rfl

-- A survey raises nothing.
theorem errands_raise (errands : List (Errand K)) (counter : Counter) :
    amount (Step.raises counter) (errands.flatMap Errand.steps) =
      (errands.filterMap Errand.call?).countP counter.counts := by
  induction errands with
  | nil => rfl
  | cons errand rest ih =>
      rw [List.flatMap_cons, amount_append, ih]
      cases errand with
      | call sent =>
          have sends : (Errand.call sent :: rest).filterMap Errand.call? =
              sent :: rest.filterMap Errand.call? := rfl
          rw [sends, List.countP_cons, Errand.steps, call_raises, Nat.add_comm]
      | survey =>
          have quiet : amount (Step.raises counter) (Errand.survey : Errand K).steps = 0 := by
            apply amount_zero
            intro step member
            obtain ⟨reading, rfl⟩ := Errand.survey_steps step member
            rfl
          rw [quiet, Nat.zero_add]
          rfl

theorem errands_spare :
    ∀ step ∈ (ofErrands name user patience threads).pending, step.sparesRegions = true := by
  intro step member
  rw [ofErrands_pending] at member
  obtain ⟨errand, _, inErrand⟩ := List.mem_flatMap.mp member
  cases errand with
  | call sent => exact call_spares_regions sent step inErrand
  | survey =>
      obtain ⟨reading, rfl⟩ := Errand.survey_steps step inErrand
      rfl

variable (few : (threads.flatten.filterMap Errand.call?).length < 2 ^ 64)

include few in
theorem errands_counts (counter : Counter) :
    ((ofErrands name user patience threads).recorder.stats.count counter).toNat +
      amount (Step.raises counter) (ofErrands name user patience threads).pending < 2 ^ 64 := by
  have fewer := List.countP_le_length (p := counter.counts) (l := threads.flatten.filterMap Errand.call?)
  rw [ofErrands_recorder, Recorder.unused_count, ofErrands_pending, errands_raise]
  exact Nat.lt_of_le_of_lt (by simpa using fewer) few

variable [DecidableEq K] [Outlined K] (schedule : List Nat)

/-- What a worker still has to do is the end of its errands. -/
theorem run_errands :
    ∀ worker ∈ ((ofErrands name user patience threads).run schedule).workers,
      ∃ errands : List (Errand K), worker.todo <:+ errands.flatMap Errand.steps := by
  apply run_turns (motive := fun _ floor => ∀ worker ∈ floor.workers,
    ∃ errands : List (Errand K), worker.todo <:+ errands.flatMap Errand.steps)
  · intro worker member
    obtain ⟨errands, _, rfl⟩ := List.mem_map.mp member
    exact ⟨errands, List.suffix_refl _⟩
  · intro done before turn steps after each move
    cases move with
    | pass => exact each
    | move recorder front back journal step rest hand sheet =>
        obtain ⟨errands, left⟩ := each ⟨step :: rest, hand, sheet⟩ (by simp)
        exact moved_workers each ⟨errands, (List.suffix_cons step rest).trans left⟩

include few

/-- At every moment the total exceeds the calls that were sorted by their kind, or have no kind, by no
more than the deliveries under way. -/
theorem run_sorted :
    (((ofErrands name user patience threads).run schedule).recorder.stats.count .total).toNat ≤
      (((ofErrands name user patience threads).run schedule).recorder.stats.count .creates).toNat +
        (((ofErrands name user patience threads).run schedule).recorder.stats.count .updates).toNat +
        (((ofErrands name user patience threads).run schedule).recorder.stats.count .deletes).toNat +
        (((ofErrands name user patience threads).run schedule).recorder.stats.count .errors).toNat +
        amount Step.classless ((ofErrands name user patience threads).made schedule) +
        ((ofErrands name user patience threads).run schedule).inFlight := by
  have count (counter : Counter) :
      (((ofErrands name user patience threads).run schedule).recorder.stats.count counter).toNat =
        amount (Step.raises counter) ((ofErrands name user patience threads).made schedule) := by
    rw [run_count _ schedule counter (errands_counts name user patience threads few counter),
      ofErrands_recorder, Recorder.unused_count]
    exact Nat.zero_add _
  have all := run_pending (ofErrands name user patience threads) schedule
  have sorts := amount_perm Step.sorts all
  have raises := amount_perm (Step.raises .total) all
  have balance := errands_sort threads.flatten
  have waiting := pending_settled ((ofErrands name user patience threads).run schedule).workers
    fun worker member => by
      obtain ⟨errands, left⟩ := run_errands name user patience threads schedule worker member
      exact errands_settled errands worker.todo left
  rw [amount_append, ofErrands_pending] at sorts raises
  rw [amount_sorts] at sorts
  simp only [count]
  rw [pending] at sorts raises
  rw [inFlight]
  omega

end Errands

end Floor

end QueryRecorder
