import QueryRecorder.Proofs.Sequence
import QueryRecorder.Proofs.Tickets

/-!
Delivery by several threads at once. What no reset touches depends on nothing but which steps were
made, and neither do the key sets and the close flag if nobody resets them. So a finished run agrees
with the same calls made one by one, in any order. Its history is a merge of what the threads sent.
-/

namespace QueryRecorder

variable {K : Type}

namespace Recorder

/-- The two agree in all that a reset leaves as it is. The order within a set means nothing. -/
structure AgreeLasting (recorder other : Recorder K) : Prop where
  counts : ∀ counter, recorder.stats.count counter = other.stats.count counter
  regionCleared : recorder.stats.regionCleared = other.stats.regionCleared
  regionInvalidated : recorder.stats.regionInvalidated = other.stats.regionInvalidated
  errors : recorder.errors.Perm other.errors

-- The two agree in what a reset empties.
structure AgreeCleared (recorder other : Recorder K) : Prop where
  keys : ∀ bucket, (recorder.keys bucket).Perm (other.keys bucket)
  closed : recorder.stats.closed = other.stats.closed

/-- The history has one entry for each keyed event, under the tickets from 0 on, and each thread's
events stand in it in the order in which the thread sent them. -/
structure Merges (recorder : Recorder K) (threads : List (List (Call K))) : Prop where
  tickets : recorder.history.map (·.1.toNat) =
    (List.range (Call.keyed threads.flatten).length).reverse
  next : recorder.nextTicket.toNat = (Call.keyed threads.flatten).length
  events : recorder.events.Perm (Call.keyed threads.flatten)
  owners : ∃ owned : List (Nat × Event K), owned.map (·.2) = recorder.events ∧
    ∀ turn, (owned.filter fun entry => entry.1 = turn).map (·.2) = Call.keyed (threads.getD turn [])

end Recorder

namespace Course

variable [DecidableEq K] {recorder last other : Recorder K} {steps more : List (Step K)}

-- A mark that is never taken off is on after some steps in any order or in none.
theorem same_mark (first : Course recorder steps last) (second : Course recorder more other)
    (same : steps.Perm more) (spares : ∀ step ∈ steps, step.sparesRegions = true) (mark : Mark K)
    (stays : ∀ step ∈ steps, mark.clearedAt step = false) : mark.isOn last = mark.isOn other := by
  rw [first.isOn mark spares, second.isOn mark fun step member => spares step (same.symm.subset member),
    latch_never_off _ _ _ _ stays,
    latch_never_off _ _ _ _ fun step member => stays step (same.symm.subset member), same.any_eq]

theorem agree_lasting (first : Course recorder steps last) (second : Course recorder more other)
    (same : steps.Perm more) (spares : ∀ step ∈ steps, step.sparesRegions = true)
    (once : recorder.errors.Nodup) : Recorder.AgreeLasting last other := by
  have kept (mark : Mark K) (lasts : ∀ step, mark.clearedAt step = false) :
      mark.isOn last = mark.isOn other :=
    first.same_mark second same spares mark fun step _ => lasts step
  refine ⟨?_, kept (.flag .regionCleared) ?_, kept (.flag .regionInvalidated) ?_, ?_⟩
  · intro counter
    rw [first.count, second.count, amount_perm _ same]
  · intro step
    cases step <;> rfl
  · intro step
    cases step <;> rfl
  · apply (List.perm_ext_iff_of_nodup (first.errors_nodup once) (second.errors_nodup once)).mpr
    intro message
    have found := kept (.error message) fun step => by cases step <;> rfl
    simpa only [Mark.isOn, Recorder.hasError, List.contains_iff_mem] using Bool.eq_iff_iff.mp found

theorem agree_cleared (first : Course recorder steps last) (second : Course recorder more other)
    (same : steps.Perm more) (spares : ∀ step ∈ steps, step.sparesRegions = true)
    (unbroken : ∀ step ∈ steps, step.isReset = false)
    (once : ∀ bucket, (recorder.keys bucket).Nodup) : Recorder.AgreeCleared last other := by
  have kept (mark : Mark K) : mark.isOn last = mark.isOn other :=
    first.same_mark second same spares mark fun step member =>
      reset_clears mark step (unbroken step member)
  refine ⟨?_, kept (.flag .closed)⟩
  intro bucket
  apply (List.perm_ext_iff_of_nodup (first.keys_nodup bucket (once bucket))
    (second.keys_nodup bucket (once bucket))).mpr
  intro key
  have found := kept (.key bucket key)
  simpa only [Mark.isOn, Recorder.holds, List.contains_iff_mem] using Bool.eq_iff_iff.mp found

end Course

namespace Floor

variable [DecidableEq K] [Outlined K]

variable (name : String) (user : Option String) (patience : Patience) (threads : List (List (Call K)))

theorem done_made (schedule : List Nat)
    (done : ((ofThreads name user patience threads).run schedule).isDone = true) :
    ((ofThreads name user patience threads).made schedule).Perm (threads.flatten.flatMap Call.steps) := by
  have all := run_pending (ofThreads name user patience threads) schedule
  rw [done_pending _ done, List.append_nil, ofThreads_pending] at all
  exact all

theorem done_merges (few : threads.flatten.length < 2 ^ 64) (schedule : List Nat)
    (done : ((ofThreads name user patience threads).run schedule).isDone = true) :
    ((ofThreads name user patience threads).run schedule).recorder.Merges threads := by
  obtain ⟨drawn, short, ledger⟩ := threads_ledger name user patience threads few schedule
  have settled := done_held _ done
  have history := ledger.settled_history short settled
  have events := ledger.settled_events short settled
  have sent : (drawn.map (·.2)).Perm (Call.keyed threads.flatten) := by
    have filed := threads_filed name user patience threads few schedule
    rw [history, List.map_reverse, Recorder.numbered_events] at filed
    rw [← calls_file]
    exact (List.reverse_perm _).symm.trans
      (filed.trans ((done_made name user patience threads schedule done).filterMap _))
  have count := sent.length_eq
  rw [List.length_map] at count
  constructor
  case tickets =>
    rw [history, List.map_reverse, Recorder.numbered_tickets _ (by rw [List.length_map]; omega),
      List.length_map, count]
  case next => rw [ledger.next_toNat short, count]
  case events =>
    rw [events]
    exact sent
  case owners =>
    refine ⟨drawn, events.symm, ?_⟩
    intro turn
    have share := ledger.shares turn
    rw [done_undrawn _ done, List.append_nil, ofThreads_undrawn] at share
    exact share

/-- Whatever the interleaving, a finished run loses nothing and records nothing twice. -/
theorem run_loses_nothing (few : threads.flatten.length < 2 ^ 64) (schedule : List Nat)
    (done : ((ofThreads name user patience threads).run schedule).isDone = true) :
    (∀ order : List (Call K), order.Perm threads.flatten →
      ((ofThreads name user patience threads).run schedule).recorder.AgreeLasting
        ((Recorder.unused name user patience).receiveAll order)) ∧
      (Call.reset ∉ threads.flatten → ∀ order : List (Call K), order.Perm threads.flatten →
        ((ofThreads name user patience threads).run schedule).recorder.AgreeCleared
          ((Recorder.unused name user patience).receiveAll order)) ∧
      ((ofThreads name user patience threads).run schedule).recorder.Merges threads := by
  have course := run_course (ofThreads name user patience threads) schedule
  have spares := run_spares name user patience threads schedule
  have made := done_made name user patience threads schedule done
  have alike (order : List (Call K)) (every : order.Perm threads.flatten) :
      ((ofThreads name user patience threads).made schedule).Perm (order.flatMap Call.steps) :=
    made.trans (every.flatMap_right Call.steps).symm
  refine ⟨?_, ?_, done_merges name user patience threads few schedule done⟩
  · intro order every
    exact course.agree_lasting (Recorder.receiveAll_course _ order) (alike order every) spares
      List.nodup_nil
  · intro unreset order every
    have unbroken : ∀ step ∈ (ofThreads name user patience threads).made schedule,
        step.isReset = false := by
      intro step member
      obtain ⟨call, sent, inCall⟩ := List.mem_flatMap.mp (made.subset member)
      apply call_reset_steps call _ step inCall
      cases call with
      | reset => exact absurd sent unreset
      | _ => rfl
    refine course.agree_cleared (Recorder.receiveAll_course _ order) (alike order every) spares unbroken ?_
    intro bucket
    exact Recorder.unused_keys name user patience bucket ▸ List.nodup_nil

-- Two threads of which the one that draws first files last. The record is the one of the calls made one
-- by one in another order, down to the figures; the history is in the order of the tickets.
theorem run_loses_nothing_crossed :
    let threads : List (List (Call String)) :=
      [[.event (.keyed .create "a"), .close], [.event (.keyed .destroy "b")]]
    let last := (ofThreads "cq" none .standard threads).run
      [0, 0, 0, 1, 1, 1, 1, 0, 0, 0, 0, 0, 0, 1, 1, 1]
    let inTurn := (Recorder.unused "cq" none .standard).receiveAll
      [.close, .event (.keyed .destroy "b"), .event (.keyed .create "a")]
    threads.flatten.length < 2 ^ 64 ∧ last.isDone = true ∧
      last.recorder.AgreeLasting inTurn ∧ last.recorder.AgreeCleared inTurn ∧
      last.recorder.Merges threads ∧
      last.recorder.stats = { Stats.zero with
        total := 2, creates := 1, deletes := 1, queryInserts := 1, queryDeletes := 1, closed := true } ∧
      last.recorder.created = ["a"] ∧ last.recorder.destroyed = ["b"] ∧
      last.recorder.history = [(1, .keyed .destroy "b"), (0, .keyed .create "a")] := by
  intro threads last inTurn
  have few : threads.flatten.length < 2 ^ 64 := by decide
  have done : last.isDone = true := by decide
  obtain ⟨lasting, cleared, merges⟩ := run_loses_nothing "cq" none .standard threads few _ done
  refine ⟨few, done, lasting _ (by decide), cleared (by decide) _ (by decide), merges, ?_⟩
  exact ⟨by decide, by decide, by decide, by decide⟩

end Floor

end QueryRecorder
