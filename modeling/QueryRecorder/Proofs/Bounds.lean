import QueryRecorder.Proofs.Moments
import QueryRecorder.Proofs.Tickets

/-!
Bounds that hold at every moment of a run, whatever calls are under way. A figure that a call raises
early covers one that it raises later, so between two of its calls nothing is owed to a thread. A key
enters a set only after the event that carries it has entered the history.
-/

namespace QueryRecorder

variable {K : Type}

section Covered

variable (claim cover : Step K → Nat)

-- The total, where it is raised first, covers anything that is claimed once.
theorem owed_opening (rest : List (Step K)) (free : claim (.count .total) = 0)
    (pays : 1 ≤ cover (.count .total)) (once : amount claim (.count .total :: rest) ≤ 1) :
    owed claim cover (.count .total :: rest) = 0 := by
  have tail := owed_le_amount claim cover rest
  rw [amount_cons] at once
  simp only [owed, List.foldr_cons] at tail ⊢
  omega

theorem owed_total (call : Call K) (free : claim (.count .total) = 0)
    (pays : 1 ≤ cover (.count .total))
    (once : amount claim call.steps ≤ if Counter.total.counts call then 1 else 0) :
    owed claim cover call.steps = 0 := by
  cases call with
  | event event => exact owed_opening claim cover _ free pays once
  | error event => exact owed_opening claim cover _ free pays once
  | _ => exact Nat.le_zero.mp (Nat.le_trans (owed_le_amount claim cover _) once)

theorem owed_none (steps : List (Step K)) (none : ∀ step ∈ steps, claim step = 0) :
    owed claim cover steps = 0 :=
  Nat.le_zero.mp (amount_zero claim steps none ▸ owed_le_amount claim cover steps)

/-- Keys, and the invalidations that are counted beside them, are covered if every base operation
covers its own. -/
theorem owed_base (quiet : ∀ step, (∀ bucket key, step ≠ .keep bucket key) →
      step ≠ .count .invalidates → claim step = 0)
    (paid : ∀ event : Event K, owed claim cover event.baseSteps = 0) (call : Call K) :
    owed claim cover call.steps = 0 := by
  cases call with
  | event event =>
      -- What is owed is worked out from the end of the call.
      have after : owed claim cover event.querySteps = 0 := by
        apply owed_none
        intro step member
        simp only [Event.querySteps, List.mem_append, List.mem_map, Option.mem_toList] at member
        rcases member with ⟨counter, raised, rfl⟩ | ⟨flag, _, rfl⟩
        · refine quiet _ (by simp) ?_
          rintro ⟨⟩
          cases query : event.query <;> simp [query, Operation.queryCounter?] at raised
        · exact quiet _ (by simp) (by simp)
      have based : owed claim cover (event.baseSteps ++ event.querySteps) = 0 := by
        rw [owed_append _ _ _ _ after, paid]
      have split : (Call.event event).steps =
          (.count .total :: .announce (.event event) :: event.historySteps) ++
            (event.baseSteps ++ event.querySteps) := by
        simp [Call.steps]
      rw [split, owed_append _ _ _ _ based]
      apply owed_none
      unfold Event.historySteps
      split <;> simp [quiet]
  | _ =>
      apply owed_none
      simp [Call.steps, quiet]

end Covered

section Paid

-- The counters of the base operations: no call raises two of them.
theorem base_paid (call : Call K) :
    owed (fun step => step.raises .creates + step.raises .updates + step.raises .deletes +
      step.raises .errors) (Step.raises .total) call.steps = 0 := by
  apply owed_total _ _ call rfl (Nat.le_refl 1)
  simp only [amount_add, call_raises]
  cases call with
  | event event =>
      obtain ⟨base, query, key, error⟩ := event
      cases base <;> simp [Counter.counts]
  | _ => simp [Counter.counts]

theorem query_paid (call : Call K) :
    owed (fun step => step.raises .queryInserts + step.raises .queryUpdates +
      step.raises .queryDeletes + step.raises .queryInvalidates + step.raises .errors)
      (Step.raises .total) call.steps = 0 := by
  apply owed_total _ _ call rfl (Nat.le_refl 1)
  simp only [amount_add, call_raises]
  cases call with
  | event event =>
      obtain ⟨base, query, key, error⟩ := event
      cases query <;> simp [Counter.counts]
  | _ => simp [Counter.counts]

theorem draws_paid (call : Call K) :
    owed (fun step => step.draws + step.raises .errors) (Step.raises .total) call.steps = 0 := by
  apply owed_total _ _ call rfl (Nat.le_refl 1)
  rw [amount_add, call_draws, call_raises]
  cases call with
  | event event =>
      rw [Call.keyed_event]
      split <;> simp [Counter.counts]
  | _ => simp [Counter.counts, Call.keyed, Call.delivered, Call.delivered?]

/-- The counter that is raised before a key enters a set. -/
def Bucket.counter : Bucket → Counter
  | .created => .creates
  | .updated => .updates
  | .destroyed => .deletes
  | .invalidated => .invalidates

theorem kept_paid (bucket : Bucket) (call : Call K) :
    owed (Step.adds bucket) (Step.raises bucket.counter) call.steps = 0 := by
  apply owed_base
  · intro step unkept _
    cases step <;> first | rfl | exact absurd rfl (unkept _ _)
  · rintro ⟨base, query, key, error⟩
    cases bucket <;> cases base <;> cases key <;> rfl

-- An invalidation raises the deletions before it is counted as one itself.
theorem destroyed_paid (call : Call K) :
    owed (fun step => step.adds .destroyed + step.raises .invalidates) (Step.raises .deletes)
      call.steps = 0 := by
  apply owed_base
  · intro step unkept uncounted
    cases step with
    | keep bucket key => exact absurd rfl (unkept bucket key)
    | count counter => cases counter <;> first | rfl | exact absurd rfl uncounted
    | _ => rfl
  · rintro ⟨base, query, key, error⟩
    cases base <;> cases key <;> rfl

theorem errors_paid (call : Call K) :
    owed Step.addsError (Step.raises .errors) call.steps = 0 := by
  cases call with
  | event event =>
      apply owed_none
      intro step member
      rcases event_step event step member with rfl | rfl | rfl | rfl | later
      · rfl
      · rfl
      · rfl
      · rfl
      · rcases classified_step event step later with ⟨counter, rfl⟩ | ⟨bucket, key, rfl⟩ | ⟨flag, rfl⟩ <;>
          rfl
  | _ => rfl

end Paid

/-- Every key that the steps put into a set comes from an event seen, or filed by an earlier step. -/
def Backed : List (Event K) → List (Step K) → Prop
  | _, [] => True
  | seen, .file event :: rest => Backed (event :: seen) rest
  | seen, .keep bucket key :: rest =>
      (∃ event ∈ seen, event.base = bucket.operation ∧ event.key = some key) ∧ Backed seen rest
  | seen, _ :: rest => Backed seen rest

namespace Backed

theorem mono {seen more : List (Event K)} {steps : List (Step K)} (backed : Backed seen steps)
    (sub : seen ⊆ more) : Backed more steps := by
  induction steps generalizing seen more with
  | nil => trivial
  | cons step rest ih =>
      cases step with
      | file event => exact ih backed (List.cons_subset_cons event sub)
      | keep bucket key =>
          obtain ⟨⟨event, known, fits⟩, later⟩ := backed
          exact ⟨⟨event, sub known, fits⟩, ih later sub⟩
      | _ => exact ih backed sub

theorem tail {seen : List (Event K)} {step : Step K} {rest : List (Step K)}
    (backed : Backed seen (step :: rest)) : Backed (step.filed?.toList ++ seen) rest := by
  cases step with
  | keep bucket key => exact backed.2
  | _ => exact backed

theorem append {seen : List (Event K)} {steps more : List (Step K)} (first : Backed seen steps)
    (second : ∀ known, Backed known more) : Backed seen (steps ++ more) := by
  induction steps generalizing seen with
  | nil => exact second seen
  | cons step rest ih =>
      cases step with
      | keep bucket key => exact ⟨first.1, ih first.2⟩
      | _ => exact ih first

theorem of_seen {seen : List (Event K)} (steps : List (Step K))
    (known : ∀ bucket key, .keep bucket key ∈ steps →
      ∃ event ∈ seen, event.base = bucket.operation ∧ event.key = some key) : Backed seen steps := by
  induction steps generalizing seen with
  | nil => trivial
  | cons step rest ih =>
      have later := fun bucket key member => known bucket key (List.mem_cons_of_mem step member)
      cases step with
      | keep bucket key => exact ⟨known bucket key List.mem_cons_self, ih later⟩
      | file event => exact (ih later).mono (List.subset_cons_self event seen)
      | _ => exact ih later

theorem kept_key (event : Event K) (bucket : Bucket) (key : K)
    (member : .keep bucket key ∈ event.baseSteps ++ event.querySteps) :
    event.base = bucket.operation ∧ event.key = some key := by
  have kept : .keep bucket key ∈ event.keepSteps := by
    simpa [Event.baseSteps, Event.querySteps] using member
  unfold Event.keepSteps at kept
  split at kept
  · rename_i found carried enters has
    have same := List.mem_singleton.mp kept
    cases same
    exact ⟨(bucket_iff event.base bucket).mpr enters, has⟩
  · simp at kept

/-- An event enters the history before its key enters a set. -/
theorem call (call : Call K) (seen : List (Event K)) : Backed seen call.steps := by
  cases call with
  | event event =>
      rw [Call.steps, List.append_assoc]
      -- Without a key nothing is kept; with one the event is filed first.
      by_cases carried : event.key.isSome
      · have classified : Backed (event :: seen) (event.baseSteps ++ event.querySteps) :=
          of_seen _ fun bucket key member =>
            ⟨event, List.mem_cons_self, kept_key event bucket key member⟩
        simp only [Event.historySteps, carried, ↓reduceIte]
        exact classified
      · have classified : Backed seen (event.baseSteps ++ event.querySteps) := by
          apply of_seen
          intro bucket key member
          rw [(kept_key event bucket key member).2] at carried
          exact absurd rfl carried
        simp only [Event.historySteps, carried]
        exact classified
  | _ => trivial

theorem calls (calls : List (Call K)) (seen : List (Event K)) :
    Backed seen (calls.flatMap Call.steps) := by
  induction calls generalizing seen with
  | nil => trivial
  | cons first rest ih => exact (call first seen).append ih

end Backed

/-- What holds of a record at every moment, also while calls are under way. -/
structure Recorder.Within (recorder : Recorder K) : Prop where
  base : (recorder.stats.count .creates).toNat + (recorder.stats.count .updates).toNat +
      (recorder.stats.count .deletes).toNat + (recorder.stats.count .errors).toNat ≤
    (recorder.stats.count .total).toNat
  query : (recorder.stats.count .queryInserts).toNat + (recorder.stats.count .queryUpdates).toNat +
      (recorder.stats.count .queryDeletes).toNat + (recorder.stats.count .queryInvalidates).toNat +
      (recorder.stats.count .errors).toNat ≤
    (recorder.stats.count .total).toNat
  created : (recorder.keys .created).length ≤ (recorder.stats.count .creates).toNat
  updated : (recorder.keys .updated).length ≤ (recorder.stats.count .updates).toNat
  invalidated : (recorder.keys .invalidated).length ≤ (recorder.stats.count .invalidates).toNat
  destroyed : (recorder.keys .destroyed).length + (recorder.stats.count .invalidates).toNat ≤
    (recorder.stats.count .deletes).toNat
  errors : recorder.errors.length ≤ (recorder.stats.count .errors).toNat
  entries : recorder.history.length ≤ recorder.nextTicket.toNat
  tickets : recorder.nextTicket.toNat + (recorder.stats.count .errors).toNat ≤
    (recorder.stats.count .total).toNat
  below : ∀ entry ∈ recorder.history, entry.1 < recorder.nextTicket
  keysOnce : ∀ bucket, (recorder.keys bucket).Nodup
  errorsOnce : recorder.errors.Nodup
  witnessed : ∀ bucket key, key ∈ recorder.keys bucket →
    ∃ entry ∈ recorder.history, entry.2.base = bucket.operation ∧ entry.2.key = some key

/-- Each key of a set comes from an event filed before, and so will each that a worker puts there. -/
structure Floor.Witnessed (filed : List (Event K)) (floor : Floor K) : Prop where
  ahead : ∀ worker ∈ floor.workers, Backed filed worker.todo
  kept : ∀ bucket key, key ∈ floor.recorder.keys bucket →
    ∃ event ∈ filed, event.base = bucket.operation ∧ event.key = some key

namespace Floor

theorem ofThreads_witnessed (name : String) (user : Option String) (patience : Patience)
    (threads : List (List (Call K))) : Witnessed [] (ofThreads name user patience threads) := by
  constructor
  · intro worker member
    obtain ⟨calls, _, rfl⟩ := List.mem_map.mp member
    exact Backed.calls calls []
  · intro bucket key member
    rw [ofThreads_recorder, Recorder.unused_keys] at member
    exact absurd member List.not_mem_nil

variable [DecidableEq K] [Outlined K]

theorem Witnessed.turn {filed : List (Event K)} {floor later : Floor K} {now : Nat}
    {steps : List (Step K)} (witnessed : Witnessed filed floor) (move : Turn now floor steps later) :
    Witnessed (filed ++ steps.filterMap Step.filed?) later := by
  have known : filed ⊆ filed ++ steps.filterMap Step.filed? := List.subset_append_left _ _
  cases move with
  | pass => simpa using witnessed
  | move recorder front back journal step rest hand sheet =>
      have here : Backed filed (step :: rest) := witnessed.ahead ⟨step :: rest, hand, sheet⟩ (by simp)
      have others : ∀ worker ∈ front ++ ⟨step :: rest, hand, sheet⟩ :: back,
          Backed (filed ++ [step].filterMap Step.filed?) worker.todo :=
        fun worker member => (witnessed.ahead worker member).mono known
      refine ⟨moved_workers others ?_, ?_⟩
      · have single : [step].filterMap Step.filed? = step.filed?.toList := by
          cases found : step.filed? <;> simp [found]
        rw [single]
        exact here.tail.mono (List.perm_append_comm.subset)
      · intro bucket key member
        rcases keys_step hand recorder step bucket key member with rfl | old
        · obtain ⟨⟨event, seen, fits⟩, _⟩ := here
          exact ⟨event, known seen, fits⟩
        · obtain ⟨event, seen, fits⟩ := witnessed.kept bucket key old
          exact ⟨event, known seen, fits⟩

theorem run_witnessed (floor : Floor K) (opening : Witnessed [] floor) (schedule : List Nat) :
    Witnessed ((floor.made schedule).filterMap Step.filed?) (floor.run schedule) := by
  apply run_turns (motive := fun done floor => Witnessed (done.filterMap Step.filed?) floor)
  · exact opening
  · intro done before now steps after witnessed move
    rw [List.filterMap_append]
    exact witnessed.turn move

section Threads

variable (name : String) (user : Option String) (patience : Patience) (threads : List (List (Call K)))
  (schedule : List Nat)

theorem made_le (weight : Step K → Nat) :
    amount weight ((ofThreads name user patience threads).made schedule) ≤
      amount weight (threads.flatten.flatMap Call.steps) := by
  have all := amount_perm weight (run_pending (ofThreads name user patience threads) schedule)
  rw [amount_append, ofThreads_pending] at all
  omega

theorem made_covered (claim cover : Step K → Nat)
    (paid : ∀ call : Call K, QueryRecorder.owed claim cover call.steps = 0) :
    amount claim ((ofThreads name user patience threads).made schedule) ≤
      amount cover ((ofThreads name user patience threads).made schedule) := by
  have bound := run_owed claim cover (ofThreads name user patience threads) schedule
  rw [ofThreads_owed name user patience threads claim cover paid] at bound
  omega

theorem made_keys (bucket : Bucket) :
    (((ofThreads name user patience threads).run schedule).recorder.keys bucket).length ≤
      amount (Step.adds bucket) ((ofThreads name user patience threads).made schedule) := by
  have bound := (run_course (ofThreads name user patience threads) schedule).keys_length bucket
  rw [ofThreads_recorder, Recorder.unused_keys, List.length_nil, Nat.zero_add] at bound
  exact bound

theorem made_errors :
    ((ofThreads name user patience threads).run schedule).recorder.errors.length ≤
      amount Step.addsError ((ofThreads name user patience threads).made schedule) := by
  have bound := (run_course (ofThreads name user patience threads) schedule).errors_length
  have new : (Recorder.unused (K := K) name user patience).errors = [] := rfl
  rw [ofThreads_recorder, new, List.length_nil, Nat.zero_add] at bound
  exact bound

variable (few : threads.flatten.length < 2 ^ 64)

include few

-- So few calls bring no counter to its end.
omit [DecidableEq K] [Outlined K] in
theorem threads_counts (counter : Counter) :
    ((ofThreads name user patience threads).recorder.stats.count counter).toNat +
      amount (Step.raises counter) (ofThreads name user patience threads).pending < 2 ^ 64 := by
  have fewer := List.countP_le_length (p := counter.counts) (l := threads.flatten)
  rw [ofThreads_recorder, Recorder.unused_count, ofThreads_pending, amount_calls _ _ (call_raises counter)]
  exact Nat.lt_of_le_of_lt (by simpa using fewer) few

theorem made_count (counter : Counter) :
    (((ofThreads name user patience threads).run schedule).recorder.stats.count counter).toNat =
      amount (Step.raises counter) ((ofThreads name user patience threads).made schedule) := by
  rw [run_count _ schedule counter (threads_counts name user patience threads few counter),
    ofThreads_recorder, Recorder.unused_count]
  exact Nat.zero_add _

theorem made_tickets :
    ((ofThreads name user patience threads).run schedule).recorder.nextTicket.toNat =
      amount Step.draws ((ofThreads name user patience threads).made schedule) := by
  have bound := made_le name user patience threads schedule Step.draws
  have fewer := Call.keyed_length threads.flatten
  have new : (Recorder.unused (K := K) name user patience).nextTicket = 0 := rfl
  rw [calls_draw] at bound
  rw [(run_course _ schedule).ticket, ofThreads_recorder, new, UInt64.zero_add,
    UInt64.toNat_ofNat', Nat.mod_eq_of_lt (by omega)]

theorem run_entries :
    ((ofThreads name user patience threads).run schedule).recorder.history.length ≤
        ((ofThreads name user patience threads).run schedule).recorder.nextTicket.toNat ∧
      ∀ entry ∈ ((ofThreads name user patience threads).run schedule).recorder.history,
        entry.1 < ((ofThreads name user patience threads).run schedule).recorder.nextTicket := by
  obtain ⟨drawn, short, ledger⟩ := threads_ledger name user patience threads few schedule
  have next := ledger.next_toNat short
  constructor
  · have lengths := ledger.entries.length_eq
    simp only [List.length_append, Recorder.numbered, List.length_mapIdx, List.length_map] at lengths
    omega
  · intro entry filed
    have drawnFor := ledger.entries.subset (List.mem_append_left _ filed)
    have rank := Recorder.numbered_below _ (by rw [List.length_map]; omega) entry drawnFor
    rw [List.length_map] at rank
    rw [UInt64.lt_iff_toNat_lt, next]
    exact rank

theorem keys_within (bucket : Bucket) :
    (((ofThreads name user patience threads).run schedule).recorder.keys bucket).length ≤
      (((ofThreads name user patience threads).run schedule).recorder.stats.count
        bucket.counter).toNat := by
  rw [made_count name user patience threads schedule few]
  exact Nat.le_trans (made_keys name user patience threads schedule bucket)
    (made_covered name user patience threads schedule _ _ (kept_paid bucket))

-- An event that was filed by some moment of a run is in the history from then on.
theorem filed_stays (later : List Nat) (event : Event K)
    (filed : event ∈ ((ofThreads name user patience threads).made schedule).filterMap Step.filed?) :
    ∃ entry ∈ ((ofThreads name user patience threads).run (schedule ++ later)).recorder.history,
      entry.2 = event := by
  have history := threads_filed name user patience threads few (schedule ++ later)
  rw [made_append, List.filterMap_append] at history
  exact List.mem_map.mp (history.symm.subset (List.mem_append_left _ filed))

theorem witnessed_later (later : List Nat) (bucket : Bucket) (key : K)
    (member : key ∈ ((ofThreads name user patience threads).run schedule).recorder.keys bucket) :
    ∃ entry ∈ ((ofThreads name user patience threads).run (schedule ++ later)).recorder.history,
      entry.2.base = bucket.operation ∧ entry.2.key = some key := by
  have witnessed := run_witnessed _ (ofThreads_witnessed name user patience threads) schedule
  obtain ⟨event, filed, fits⟩ := witnessed.kept bucket key member
  obtain ⟨entry, inHistory, rfl⟩ := filed_stays name user patience threads schedule few later event filed
  exact ⟨entry, inHistory, fits⟩

theorem recorder_within :
    ((ofThreads name user patience threads).run schedule).recorder.Within := by
  have count := made_count name user patience threads schedule few
  have covered := made_covered name user patience threads schedule
  have entries := run_entries name user patience threads schedule few
  have course := run_course (ofThreads name user patience threads) schedule
  constructor
  case base =>
    have bound := covered _ _ base_paid
    simp only [amount_add, ← count] at bound
    exact bound
  case query =>
    have bound := covered _ _ query_paid
    simp only [amount_add, ← count] at bound
    exact bound
  case created => exact keys_within name user patience threads schedule few .created
  case updated => exact keys_within name user patience threads schedule few .updated
  case invalidated => exact keys_within name user patience threads schedule few .invalidated
  case destroyed =>
    have keys := made_keys name user patience threads schedule .destroyed
    have bound := covered _ _ destroyed_paid
    rw [amount_add, ← count, ← count] at bound
    exact Nat.le_trans (Nat.add_le_add_right keys _) bound
  case errors =>
    have bound := covered _ _ errors_paid
    rw [← count] at bound
    exact Nat.le_trans (made_errors name user patience threads schedule) bound
  case entries => exact entries.1
  case tickets =>
    have bound := covered _ _ draws_paid
    rw [amount_add, ← count, ← count, ← made_tickets name user patience threads schedule few] at bound
    exact bound
  case below => exact entries.2
  case keysOnce =>
    intro bucket
    apply course.keys_nodup bucket
    rw [ofThreads_recorder, Recorder.unused_keys]
    exact List.nodup_nil
  case errorsOnce => exact course.errors_nodup List.nodup_nil
  case witnessed =>
    intro bucket key member
    have now := witnessed_later name user patience threads schedule few [] bucket key member
    rw [List.append_nil] at now
    exact now

/-- At every moment of every run the record keeps within its bounds, and a key once seen in a set is
among the recorded events from then on. -/
theorem run_within :
    ((ofThreads name user patience threads).run schedule).recorder.Within ∧
      ∀ later bucket key,
        key ∈ ((ofThreads name user patience threads).run schedule).recorder.keys bucket →
          (∃ event ∈ ((ofThreads name user patience threads).run (schedule ++ later)).recorder.events,
            event.base = bucket.operation ∧ event.key = some key) ∧
          key ∈ ((ofThreads name user patience threads).run (schedule ++ later)).recorder.eventKeys := by
  constructor
  · exact recorder_within name user patience threads schedule few
  · intro later bucket key member
    obtain ⟨⟨ticket, event⟩, inHistory, based, carried⟩ :=
      witnessed_later name user patience threads schedule few later bucket key member
    have recorded : event ∈
        ((ofThreads name user patience threads).run (schedule ++ later)).recorder.events := by
      rw [Recorder.events, Recorder.inOrder, List.mem_map]
      exact ⟨(ticket, event), List.mem_mergeSort.mpr inHistory, rfl⟩
    constructor
    · exact ⟨event, recorded, based, carried⟩
    · exact List.mem_filterMap.mpr ⟨event, recorded, carried⟩

end Threads

-- A key that is invalidated and then reset in the middle of the delivery.
theorem run_within_amid :
    let threads : List (List (Call String)) := [[.event (.keyed .invalidate "a")], [.reset]]
    let amid := (ofThreads "cq" none .standard threads).run [0, 0, 0, 0, 0, 0, 0]
    let later := (ofThreads "cq" none .standard threads).run ([0, 0, 0, 0, 0, 0, 0] ++ [1, 1, 1])
    threads.flatten.length < 2 ^ 64 ∧ amid.recorder.Within ∧
      "a" ∈ amid.recorder.keys .invalidated ∧ "a" ∉ later.recorder.keys .invalidated ∧
      "a" ∈ later.recorder.eventKeys := by
  intro threads amid later
  have few : threads.flatten.length < 2 ^ 64 := by decide
  obtain ⟨within, stays⟩ := run_within "cq" none .standard threads [0, 0, 0, 0, 0, 0, 0] few
  have kept := (stays [1, 1, 1] .invalidated "a" (by decide)).2
  exact ⟨few, within, by decide, by decide, kept⟩

end Floor

end QueryRecorder
