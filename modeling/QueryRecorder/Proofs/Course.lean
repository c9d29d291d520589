import QueryRecorder.Proofs.Account
import Mathlib.Data.List.Nodup

/-!
What steps do to a record. A course is a run of steps on one record, whoever makes them and whatever
the hands hold; counters, sets and flags do not depend on that. Calls that come one after another
and workers that interrupt each other both follow a course, so each law is proved once. The history
does depend on the hands and is left to later modules.
-/

namespace QueryRecorder

variable {K : Type}

namespace Step

def raises (counter : Counter) : Step K → Nat
  | count other => if other = counter then 1 else 0
  | _ => 0

def adds (bucket : Bucket) : Step K → Nat
  | keep other _ => if other = bucket then 1 else 0
  | _ => 0

def addsError : Step K → Nat
  | keepError _ => 1
  | _ => 0

def draws : Step K → Nat
  | draw => 1
  | _ => 0

def filed? : Step K → Option (Event K)
  | file event => some event
  | _ => none

/-- Whether only a reset makes such a step. -/
def isReset : Step K → Bool
  | clear _ => true
  | setFlag flag value => flag = .closed && !value
  | _ => false

/-- The flags of a region are set and never lowered. -/
def sparesRegions : Step K → Bool
  | setFlag flag value => flag = .closed || value
  | _ => true

end Step

/-- What steps come to together, each with its weight. -/
def amount (weight : Step K → Nat) (steps : List (Step K)) : Nat := (steps.map weight).sum

section Amount

variable (weight : Step K → Nat)

theorem amount_cons (step : Step K) (steps : List (Step K)) :
    amount weight (step :: steps) = weight step + amount weight steps := by
  simp [amount]

theorem amount_append (steps more : List (Step K)) :
    amount weight (steps ++ more) = amount weight steps + amount weight more := by
  simp [amount]

theorem amount_perm {steps others : List (Step K)} (same : steps.Perm others) :
    amount weight steps = amount weight others :=
  (same.map weight).sum_nat

theorem amount_add (other : Step K → Nat) (steps : List (Step K)) :
    amount (fun step => weight step + other step) steps = amount weight steps + amount other steps :=
  List.sum_map_add

theorem amount_zero (steps : List (Step K)) (none : ∀ step ∈ steps, weight step = 0) :
    amount weight steps = 0 := by
  rw [amount, List.sum_eq_zero_iff_forall_eq_nat]
  simpa using none

/-- A weight that every call gives at most once adds up to the number of calls that give it. -/
theorem amount_calls (counts : Call K → Bool)
    (each : ∀ call, amount weight call.steps = if counts call then 1 else 0) (calls : List (Call K)) :
    amount weight (calls.flatMap Call.steps) = calls.countP counts := by
  induction calls with
  | nil => rfl
  | cons call rest ih =>
      rw [List.flatMap_cons, amount_append, each, ih, List.countP_cons, Nat.add_comm]

end Amount

theorem counts_raise (counters : List Counter) (counter : Counter) :
    amount (Step.raises counter) (counters.map (Step.count (K := K))) = counters.count counter := by
  induction counters with
  | nil => rfl
  | cons first rest ih =>
      rw [List.map_cons, amount_cons, ih, List.count_cons, Nat.add_comm]
      simp [Step.raises]

theorem history_raises (event : Event K) (counter : Counter) :
    amount (Step.raises counter) event.historySteps = 0 := by
  unfold Event.historySteps
  split <;> rfl

theorem base_raises (event : Event K) (counter : Counter) :
    amount (Step.raises counter) event.baseSteps = event.base.baseCounters.count counter := by
  have kept : amount (Step.raises counter) event.keepSteps = 0 := by
    unfold Event.keepSteps
    split <;> rfl
  rw [Event.baseSteps, amount_append, counts_raise, kept, Nat.add_zero]

theorem query_raises (event : Event K) (counter : Counter) :
    amount (Step.raises counter) event.querySteps = event.query.queryCounter?.toList.count counter := by
  have flagged : amount (Step.raises counter)
      (event.query.queryFlag?.toList.map fun flag => (.setFlag flag true : Step K)) = 0 := by
    cases event.query.queryFlag? <;> rfl
  rw [Event.querySteps, amount_append, counts_raise, flagged, Nat.add_zero]

-- A base operation raises no counter but these four.
theorem base_count_zero (base : Operation) (counter : Counter)
    (other : counter ∉ [.creates, .updates, .deletes, .invalidates]) :
    base.baseCounters.count counter = 0 := by
  have covered : base.baseCounters ⊆ [.creates, .updates, .deletes, .invalidates] := by
    cases base <;> decide
  exact List.count_eq_zero.mpr fun member => other (covered member)

theorem query_count_zero (query : Operation) (counter : Counter)
    (other : counter ∉ [.queryInserts, .queryUpdates, .queryDeletes, .queryInvalidates]) :
    query.queryCounter?.toList.count counter = 0 := by
  have covered : query.queryCounter?.toList ⊆
      [.queryInserts, .queryUpdates, .queryDeletes, .queryInvalidates] := by
    cases query <;> decide
  exact List.count_eq_zero.mpr fun member => other (covered member)

/-- A call raises the counters that count it, and each of them once. -/
theorem call_raises (counter : Counter) (call : Call K) :
    amount (Step.raises counter) call.steps = if counter.counts call then 1 else 0 := by
  cases call with
  | event event =>
      obtain ⟨base, query, key, error⟩ := event
      simp only [Call.steps, amount_cons, amount_append, history_raises, base_raises, query_raises]
      -- Base and query operations raise different counters: one side or the other is zero.
      by_cases onBase : counter ∈ [.creates, .updates, .deletes, .invalidates]
      · rw [query_count_zero query counter (by revert onBase; cases counter <;> decide)]
        cases counter <;> simp at onBase <;> cases base <;> rfl
      · rw [base_count_zero base counter onBase]
        by_cases onQuery : counter ∈ [.queryInserts, .queryUpdates, .queryDeletes, .queryInvalidates]
        · cases counter <;> simp at onQuery <;> cases query <;> rfl
        · rw [query_count_zero query counter onQuery]
          cases counter <;> simp at onBase onQuery <;> rfl
  | error event => cases counter <;> rfl
  | connected => cases counter <;> rfl
  | disconnected => cases counter <;> rfl
  | close => cases counter <;> rfl
  | reset => cases counter <;> rfl

-- What an event does to the record once it is in the history.
theorem classified_step (event : Event K) (step : Step K)
    (member : step ∈ event.baseSteps ++ event.querySteps) :
    (∃ counter, step = .count counter) ∨ (∃ bucket key, step = .keep bucket key) ∨
      ∃ flag, step = .setFlag flag true := by
  simp only [Event.baseSteps, Event.querySteps, List.mem_append, List.mem_map] at member
  rcases member with (⟨counter, _, rfl⟩ | kept) | (⟨counter, _, rfl⟩ | ⟨flag, _, rfl⟩)
  · exact .inl ⟨counter, rfl⟩
  · unfold Event.keepSteps at kept
    split at kept
    · exact .inr (.inl ⟨_, _, List.mem_singleton.mp kept⟩)
    · simp at kept
  · exact .inl ⟨counter, rfl⟩
  · exact .inr (.inr ⟨flag, rfl⟩)

theorem classified_unfiled (event : Event K) :
    ∀ step ∈ event.baseSteps ++ event.querySteps, step.filed? = none := by
  intro step member
  rcases classified_step event step member with ⟨counter, rfl⟩ | ⟨bucket, key, rfl⟩ | ⟨flag, rfl⟩ <;> rfl

theorem event_step (event : Event K) (step : Step K) (member : step ∈ (Call.event event).steps) :
    step = .count .total ∨ step = .announce (.event event) ∨ step = .draw ∨ step = .file event ∨
      step ∈ event.baseSteps ++ event.querySteps := by
  simp only [Call.steps, Event.historySteps, List.mem_cons, List.append_assoc, List.mem_append] at member ⊢
  split at member <;> simp at member <;> tauto

theorem event_raises_flags (event : Event K) :
    ∀ step ∈ (Call.event event).steps, step.sparesRegions = true ∧ step.isReset = false := by
  intro step member
  rcases event_step event step member with rfl | rfl | rfl | rfl | later
  · exact ⟨rfl, rfl⟩
  · exact ⟨rfl, rfl⟩
  · exact ⟨rfl, rfl⟩
  · exact ⟨rfl, rfl⟩
  · rcases classified_step event step later with ⟨counter, rfl⟩ | ⟨bucket, key, rfl⟩ | ⟨flag, rfl⟩
    · exact ⟨rfl, rfl⟩
    · exact ⟨rfl, rfl⟩
    · cases flag <;> exact ⟨rfl, rfl⟩

theorem call_spares_regions (call : Call K) : ∀ step ∈ call.steps, step.sparesRegions = true := by
  cases call with
  | event event => exact fun step member => (event_raises_flags event step member).1
  | _ => simp [Call.steps, Step.sparesRegions]

theorem call_reset_steps (call : Call K) (other : call.isReset = false) :
    ∀ step ∈ call.steps, step.isReset = false := by
  cases call with
  | event event => exact fun step member => (event_raises_flags event step member).2
  | reset => simp [Call.isReset] at other
  | _ => simp [Call.steps, Step.isReset]

theorem call_draws (call : Call K) : amount Step.draws call.steps = (Call.keyed [call]).length := by
  cases call with
  | event event =>
      have classified : amount Step.draws (event.baseSteps ++ event.querySteps) = 0 := by
        refine amount_zero _ _ fun step member => ?_
        rcases classified_step event step member with ⟨counter, rfl⟩ | ⟨bucket, key, rfl⟩ | ⟨flag, rfl⟩ <;>
          rfl
      rw [Call.steps, amount_cons, amount_cons, List.append_assoc, amount_append, classified,
        Call.keyed_event, Event.historySteps]
      split <;> rfl
  | _ => rfl

theorem calls_draw (calls : List (Call K)) :
    amount Step.draws (calls.flatMap Call.steps) = (Call.keyed calls).length := by
  induction calls with
  | nil => rfl
  | cons call rest ih =>
      rw [List.flatMap_cons, amount_append, call_draws, ih, ← List.length_append, ← Call.keyed_append]
      rfl

theorem bucket_iff (base : Operation) (bucket : Bucket) :
    base = bucket.operation ↔ base.bucket? = some bucket := by
  cases base <;> cases bucket <;> decide

theorem reset_clears (mark : Mark K) (step : Step K) (other : step.isReset = false) :
    mark.clearedAt step = false := by
  cases mark with
  | flag flag =>
      cases step with
      | setFlag found value => cases flag <;> cases found <;> simp_all [Mark.clearedAt, Step.isReset]
      | _ => cases flag <;> rfl
  | _ => cases step <;> simp_all [Mark.clearedAt, Step.isReset]

section Marks

variable [DecidableEq K]

theorem keep_sets (event : Event K) (mark : Mark K) :
    event.keepSteps.any mark.setAt =
      match mark with
      | .key bucket key => decide (event.base = bucket.operation) && decide (event.key = some key)
      | _ => false := by
  unfold Event.keepSteps
  cases mark with
  | key bucket key =>
      simp only [bucket_iff]
      cases event.base.bucket? <;> cases event.key <;> simp [Mark.setAt, eq_comm]
  | _ => cases event.base.bucket? <;> cases event.key <;> simp [Mark.setAt]

theorem flag_sets (query : Operation) (mark : Mark K) :
    (query.queryFlag?.toList.map fun flag => (.setFlag flag true : Step K)).any mark.setAt =
      match mark with
      | .flag .regionCleared => decide (query = .regionClear)
      | .flag .regionInvalidated => decide (query = .regionInvalidate)
      | _ => false := by
  cases mark with
  | flag flag => cases flag <;> cases query <;> rfl
  | _ => simp [Mark.setAt]

theorem event_sets (event : Event K) (mark : Mark K) :
    (Call.event event).steps.any mark.setAt = mark.setBy (.event event) := by
  have plain (counters : List Counter) : (counters.map Step.count).any mark.setAt = false := by
    cases mark <;> simp [Mark.setAt]
  have ordered : event.historySteps.any mark.setAt = false := by
    unfold Event.historySteps
    split <;> cases mark <;> simp [Mark.setAt]
  have opening : [.count .total, .announce (.event event)].any mark.setAt = false := by
    cases mark <;> simp [Mark.setAt]
  simp only [Call.steps, List.any_cons, List.any_nil, Bool.or_false] at opening ⊢
  rw [← Bool.or_assoc, opening]
  simp only [List.any_append, ordered, Event.baseSteps, Event.querySteps, plain, keep_sets, flag_sets,
    Bool.false_or]
  cases mark with
  | flag flag => cases flag <;> rfl
  | _ => simp [Mark.setBy]

theorem call_latch (mark : Mark K) (on : Bool) (call : Call K) :
    latch mark.setAt mark.clearedAt on call.steps =
      (mark.setBy call || (on && !mark.clearedBy call)) := by
  cases call with
  | event event =>
      have stays : ∀ step ∈ (Call.event event).steps, mark.clearedAt step = false :=
        fun step member => reset_clears mark step (call_reset_steps _ rfl step member)
      rw [latch_never_off _ _ _ _ stays, event_sets, Bool.or_comm]
      cases mark with
      | flag flag => cases flag <;> simp [Mark.clearedBy]
      | _ => simp [Mark.clearedBy]
  | reset =>
      cases mark with
      | key bucket key => cases bucket <;> cases on <;> rfl
      | error message => cases on <;> rfl
      | flag flag => cases flag <;> cases on <;> rfl
  | _ =>
      cases mark with
      | flag flag =>
          cases flag <;>
            simp [Call.steps, latch, Mark.setAt, Mark.setBy, Mark.clearedAt, Mark.clearedBy]
      | _ => simp [Call.steps, latch, Mark.setAt, Mark.setBy, Mark.clearedAt, Mark.clearedBy]

theorem calls_latch (mark : Mark K) (on : Bool) (calls : List (Call K)) :
    latch mark.setAt mark.clearedAt on (calls.flatMap Call.steps) =
      latch mark.setBy mark.clearedBy on calls := by
  induction calls generalizing on with
  | nil => rfl
  | cons call rest ih =>
      rw [List.flatMap_cons, latch_append, call_latch, ih]
      rfl

end Marks

namespace Recorder

/-- A recorder that no call has reached yet. -/
def unused (name : String) (user : Option String) (patience : Patience) : Recorder K :=
  { withPatience name patience with user := user }

theorem unused_count (name : String) (user : Option String) (patience : Patience) (counter : Counter) :
    (unused (K := K) name user patience).stats.count counter = 0 := by
  cases counter <;> rfl

theorem unused_keys (name : String) (user : Option String) (patience : Patience) (bucket : Bucket) :
    (unused (K := K) name user patience).keys bucket = [] := by
  cases bucket <;> rfl

theorem unused_isOn [DecidableEq K] (name : String) (user : Option String) (patience : Patience)
    (mark : Mark K) : mark.isOn (unused name user patience) = false := by
  cases mark with
  | key bucket key => simp [Mark.isOn, holds, unused_keys]
  | error message => rfl
  | flag flag => cases flag <;> rfl

@[simp] theorem stats_setKeys (recorder : Recorder K) (bucket : Bucket) (keys : List K) :
    (recorder.setKeys bucket keys).stats = recorder.stats := by
  cases bucket <;> rfl

@[simp] theorem errors_setKeys (recorder : Recorder K) (bucket : Bucket) (keys : List K) :
    (recorder.setKeys bucket keys).errors = recorder.errors := by
  cases bucket <;> rfl

@[simp] theorem history_setKeys (recorder : Recorder K) (bucket : Bucket) (keys : List K) :
    (recorder.setKeys bucket keys).history = recorder.history := by
  cases bucket <;> rfl

@[simp] theorem nextTicket_setKeys (recorder : Recorder K) (bucket : Bucket) (keys : List K) :
    (recorder.setKeys bucket keys).nextTicket = recorder.nextTicket := by
  cases bucket <;> rfl

end Recorder

section Effects

variable [DecidableEq K]

variable (hand : UInt64) (recorder : Recorder K) (step : Step K)

theorem count_perform (counter : Counter) :
    (step.perform hand recorder).stats.count counter =
      recorder.stats.count counter + UInt64.ofNat (step.raises counter) := by
  cases step with
  | count other =>
      by_cases same : other = counter
      · subst other
        simp [Step.perform, Step.raises, Stats.bump, Stats.count_setCount]
      · simp [Step.perform, Step.raises, Stats.bump, Stats.count_setCount, same, Ne.symm same]
  | setFlag flag value => simp [Step.perform, Step.raises, Stats.count_setFlag]
  | _ => simp [Step.perform, Step.raises]

theorem ticket_perform :
    (step.perform hand recorder).nextTicket = recorder.nextTicket + UInt64.ofNat step.draws := by
  cases step <;> simp [Step.perform, Step.draws]

theorem keys_perform (bucket : Bucket) :
    (step.perform hand recorder).keys bucket =
      match step with
      | .keep other key => if bucket = other then (recorder.keys other).insert key else recorder.keys bucket
      | .clear other => if bucket = other then [] else recorder.keys bucket
      | _ => recorder.keys bucket := by
  cases step with
  | keep other key => exact Recorder.keys_setKeys recorder other bucket _
  | clear other => exact Recorder.keys_setKeys recorder other bucket _
  | _ => cases bucket <;> rfl

-- A key that is in a set after a step was there before or was put there by it.
theorem keys_step (bucket : Bucket) (key : K) (member : key ∈ (step.perform hand recorder).keys bucket) :
    step = .keep bucket key ∨ key ∈ recorder.keys bucket := by
  rw [keys_perform] at member
  cases step with
  | keep other added =>
      by_cases same : bucket = other
      · subst other
        simp only [↓reduceIte, List.mem_insert_iff] at member
        rcases member with rfl | old
        · exact .inl rfl
        · exact .inr old
      · exact .inr (by simpa [same] using member)
  | clear other =>
      by_cases same : bucket = other
      · simp [same] at member
      · exact .inr (by simpa [same] using member)
  | _ => exact .inr member

theorem errors_perform :
    (step.perform hand recorder).errors =
      match step with
      | .keepError message => recorder.errors.insert message
      | _ => recorder.errors := by
  cases step <;> simp [Step.perform]

theorem history_perform :
    (step.perform hand recorder).history =
      match step with
      | .file event => Recorder.file hand event recorder.history
      | _ => recorder.history := by
  cases step <;> simp [Step.perform]

theorem identity_perform : (step.perform hand recorder).identity = recorder.identity := by
  cases step with
  | keep bucket key => cases bucket <;> rfl
  | clear bucket => cases bucket <;> rfl
  | _ => rfl

theorem name_perform : (step.perform hand recorder).name = recorder.name := by
  cases step with
  | keep bucket key => cases bucket <;> rfl
  | clear bucket => cases bucket <;> rfl
  | _ => rfl

theorem flag_perform (flag : Flag) :
    (step.perform hand recorder).stats.flag flag =
      match step with
      | .setFlag other value => if flag = other then value else recorder.stats.flag flag
      | _ => recorder.stats.flag flag := by
  cases step <;> simp [Step.perform, Stats.bump, Stats.flag_setCount, Stats.flag_setFlag]

/-- A step turns a mark on, or off, or leaves it as it is. -/
theorem isOn_perform (mark : Mark K) (spares : step.sparesRegions = true) :
    mark.isOn (step.perform hand recorder) =
      (mark.setAt step || (mark.isOn recorder && !mark.clearedAt step)) := by
  cases mark with
  | key bucket key =>
      simp only [Mark.isOn, Recorder.holds, keys_perform]
      cases step with
      | keep other added => by_cases same : bucket = other <;> simp [Mark.setAt, Mark.clearedAt, same]
      | clear other => by_cases same : bucket = other <;> simp [Mark.setAt, Mark.clearedAt, same]
      | _ => simp [Mark.setAt, Mark.clearedAt]
  | error message =>
      simp only [Mark.isOn, Recorder.hasError, errors_perform]
      cases step <;> simp [Mark.setAt, Mark.clearedAt, eq_comm]
  | flag flag =>
      simp only [Mark.isOn, flag_perform]
      cases step with
      | setFlag other value =>
          cases flag <;> cases other <;> cases value <;>
            simp_all [Mark.setAt, Mark.clearedAt, Step.sparesRegions]
      | _ => cases flag <;> simp [Mark.setAt, Mark.clearedAt]

end Effects

/-- The steps lead from one record to the other, each made with some hand. -/
inductive Course [DecidableEq K] : Recorder K → List (Step K) → Recorder K → Prop
  | rest (recorder : Recorder K) : Course recorder [] recorder
  | step {recorder last : Recorder K} {steps : List (Step K)} (hand : UInt64) (step : Step K)
      (later : Course (step.perform hand recorder) steps last) : Course recorder (step :: steps) last

namespace Course

variable [DecidableEq K] {recorder middle last : Recorder K} {steps more : List (Step K)}

theorem append (first : Course recorder steps middle) (second : Course middle more last) :
    Course recorder (steps ++ more) last := by
  induction first with
  | rest => exact second
  | step hand step _ ih => exact .step hand step (ih second)

theorem count (course : Course recorder steps last) (counter : Counter) :
    last.stats.count counter =
      recorder.stats.count counter + UInt64.ofNat (amount (Step.raises counter) steps) := by
  induction course with
  | rest => simp [amount]
  | step hand step _ ih =>
      rw [ih, count_perform, amount_cons, UInt64.ofNat_add, UInt64.add_assoc]

theorem ticket (course : Course recorder steps last) :
    last.nextTicket = recorder.nextTicket + UInt64.ofNat (amount Step.draws steps) := by
  induction course with
  | rest => simp [amount]
  | step hand step _ ih =>
      rw [ih, ticket_perform, amount_cons, UInt64.ofNat_add, UInt64.add_assoc]

theorem isOn (course : Course recorder steps last) (mark : Mark K)
    (spares : ∀ step ∈ steps, step.sparesRegions = true) :
    mark.isOn last = latch mark.setAt mark.clearedAt (mark.isOn recorder) steps := by
  induction course with
  | rest => rfl
  | step hand step _ ih =>
      rw [ih fun other member => spares other (List.mem_cons_of_mem step member),
        isOn_perform hand _ step mark (spares step List.mem_cons_self)]
      rfl

theorem keys_nodup (course : Course recorder steps last) (bucket : Bucket)
    (once : (recorder.keys bucket).Nodup) : (last.keys bucket).Nodup := by
  induction course with
  | rest => exact once
  | step hand step _ ih =>
      apply ih
      rw [keys_perform]
      cases step with
      | keep other key =>
          by_cases same : bucket = other
          · subst other
            simpa using List.Nodup.insert once
          · simpa [same] using once
      | clear other => by_cases same : bucket = other <;> simp [same, once]
      | _ => exact once

theorem errors_nodup (course : Course recorder steps last) (once : recorder.errors.Nodup) :
    last.errors.Nodup := by
  induction course with
  | rest => exact once
  | step hand step _ ih =>
      apply ih
      rw [errors_perform]
      cases step with
      | keepError message => exact List.Nodup.insert once
      | _ => exact once

theorem identity (course : Course recorder steps last) : last.identity = recorder.identity := by
  induction course with
  | rest => rfl
  | step hand step _ ih => rw [ih, identity_perform]

/-- A set holds no more keys than were put into it. -/
theorem keys_length (course : Course recorder steps last) (bucket : Bucket) :
    (last.keys bucket).length ≤ (recorder.keys bucket).length + amount (Step.adds bucket) steps := by
  induction course with
  | rest => simp
  | step hand step _ ih =>
      rw [amount_cons]
      refine Nat.le_trans ih ?_
      rw [keys_perform]
      cases step with
      | keep other key =>
          by_cases same : bucket = other
          · subst other
            simp only [↓reduceIte, Step.adds, List.length_insert]
            split <;> omega
          · simp [same, Step.adds, Ne.symm same]
      | clear other => by_cases same : bucket = other <;> simp [same, Step.adds]
      | _ => simp [Step.adds]

theorem errors_length (course : Course recorder steps last) :
    last.errors.length ≤ recorder.errors.length + amount Step.addsError steps := by
  induction course with
  | rest => simp
  | step hand step _ ih =>
      rw [amount_cons]
      refine Nat.le_trans ih ?_
      rw [errors_perform]
      cases step with
      | keepError message =>
          simp only [Step.addsError, List.length_insert]
          split <;> omega
      | _ => simp [Step.addsError]

end Course

end QueryRecorder
