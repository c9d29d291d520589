import QueryRecorder.Condition
import QueryRecorder.Proofs.Course
import QueryRecorder.Proofs.History

/-!
Calls that come one after another. A record is then determined by the list of the calls alone:
counters count calls, sets and flags tell of what came last, and the history lists the keyed events
as they came.
-/

namespace QueryRecorder

variable {K : Type}

theorem Stats.ext_figures (a b : Stats) (counts : ∀ counter, a.count counter = b.count counter)
    (flags : ∀ flag, a.flag flag = b.flag flag) : a = b := by
  cases a
  cases b
  simp only [Stats.mk.injEq]
  exact ⟨counts .total, counts .creates, counts .updates, counts .deletes, counts .invalidates,
    counts .errors, counts .queryInserts, counts .queryUpdates, counts .queryDeletes,
    counts .queryInvalidates, counts .connects, counts .disconnects, flags .closed,
    flags .regionCleared, flags .regionInvalidated⟩

namespace Reading

theorem mem_all (reading : Reading) : reading ∈ all := by
  rcases reading with counter | flag
  · cases counter <;> decide
  · cases flag <;> decide

variable (live sheet : Stats) (readings : List Reading)

theorem copy_count (reading : Reading) (counter : Counter) :
    (reading.copy live sheet).count counter =
      if reading = .counter counter then live.count counter else sheet.count counter := by
  cases reading with
  | counter other =>
      by_cases same : other = counter
      · subst other
        simp [copy, Stats.count_setCount]
      · simp [copy, Stats.count_setCount, same, Ne.symm same]
  | flag other => simp [copy, Stats.count_setFlag]

theorem copy_flag (reading : Reading) (flag : Flag) :
    (reading.copy live sheet).flag flag =
      if reading = .flag flag then live.flag flag else sheet.flag flag := by
  cases reading with
  | counter other => simp [copy, Stats.flag_setCount]
  | flag other =>
      by_cases same : other = flag
      · subst other
        simp [copy, Stats.flag_setFlag]
      · simp [copy, Stats.flag_setFlag, same, Ne.symm same]

theorem copied_count (counter : Counter) :
    (readings.foldl (fun sheet reading => reading.copy live sheet) sheet).count counter =
      if .counter counter ∈ readings then live.count counter else sheet.count counter := by
  induction readings generalizing sheet with
  | nil => rfl
  | cons reading rest ih =>
      rw [List.foldl_cons, ih, copy_count]
      by_cases later : .counter counter ∈ rest <;> simp [later, eq_comm]

theorem copied_flag (flag : Flag) :
    (readings.foldl (fun sheet reading => reading.copy live sheet) sheet).flag flag =
      if .flag flag ∈ readings then live.flag flag else sheet.flag flag := by
  induction readings generalizing sheet with
  | nil => rfl
  | cons reading rest ih =>
      rw [List.foldl_cons, ih, copy_flag]
      by_cases later : .flag flag ∈ rest <;> simp [later, eq_comm]

/-- A copy of figures that stand still is exact. -/
theorem copied_all : all.foldl (fun sheet reading => reading.copy live sheet) sheet = live := by
  apply Stats.ext_figures
  · intro counter
    rw [copied_count, if_pos (mem_all _)]
  · intro flag
    rw [copied_flag, if_pos (mem_all _)]

end Reading

theorem survey_still {σ : Type} (recorder : Recorder K) (world : σ) :
    (Expected.survey (pure recorder : StateM σ (Recorder K))).run world = (recorder.stats, world) := by
  have folded (readings : List Reading) (sheet : Stats) :
      (readings.foldlM (fun sheet (reading : Reading) => do
        let recorder ← (pure recorder : StateM σ (Recorder K))
        pure (reading.copy recorder.stats sheet)) sheet).run world =
      (readings.foldl (fun sheet reading => reading.copy recorder.stats sheet) sheet, world) := by
    induction readings generalizing sheet with
    | nil => rfl
    | cons reading rest ih => exact ih _
  rw [Expected.survey, folded, Reading.copied_all]

variable [DecidableEq K] [Outlined K]

namespace Recorder

theorem follow_course (steps : List (Step K)) (hand : UInt64) (recorder : Recorder K) :
    Course recorder steps (follow steps hand recorder).1 := by
  induction steps generalizing hand recorder with
  | nil => exact .rest recorder
  | cons step rest ih => exact .step hand step (ih _ _)

theorem receiveAll_concat (recorder : Recorder K) (calls : List (Call K)) (call : Call K) :
    recorder.receiveAll (calls ++ [call]) = ((recorder.receiveAll calls).receive call).1 := by
  simp [receiveAll]

theorem receiveAll_course (recorder : Recorder K) (calls : List (Call K)) :
    Course recorder (calls.flatMap Call.steps) (recorder.receiveAll calls) := by
  induction calls using List.reverseRecOn with
  | nil => exact .rest recorder
  | append_singleton calls call ih =>
      rw [receiveAll_concat, List.flatMap_append, List.flatMap_singleton]
      exact ih.append (follow_course call.steps 0 _)

theorem follow_history (steps : List (Step K)) (hand : UInt64) (recorder : Recorder K)
    (none : ∀ step ∈ steps, step.filed? = none) :
    (follow steps hand recorder).1.history = recorder.history := by
  induction steps generalizing hand recorder with
  | nil => rfl
  | cons step rest ih =>
      have tail := ih (step.fetch hand recorder) (step.perform hand recorder)
        fun later member => none later (List.mem_cons_of_mem step member)
      have head := none step List.mem_cons_self
      rw [follow, tail, history_perform]
      cases step with
      | file event => simp [Step.filed?] at head
      | _ => rfl

-- An event with a key is filed under the ticket that is next when the call begins.
theorem receive_history (recorder : Recorder K) (call : Call K) :
    (recorder.receive call).1.history =
      match call with
      | .event event =>
          if event.key.isSome then file recorder.nextTicket event recorder.history
          else recorder.history
      | _ => recorder.history := by
  cases call with
  | event event =>
      simp only [receive, Call.steps, Event.historySteps]
      by_cases carried : event.key.isSome
      · simp only [carried, ↓reduceIte, List.cons_append, List.nil_append, follow]
        rw [follow_history _ _ _ (classified_unfiled event)]
        rfl
      · simp only [carried, Bool.false_eq_true, ↓reduceIte, List.nil_append, follow]
        rw [follow_history _ _ _ (classified_unfiled event)]
        rfl
  | _ => exact follow_history _ _ _ (by simp [Call.steps, Step.filed?])

theorem receive_ticket (recorder : Recorder K) (call : Call K) :
    (recorder.receive call).1.nextTicket =
      recorder.nextTicket + UInt64.ofNat (Call.keyed [call]).length := by
  rw [receive, (follow_course call.steps 0 recorder).ticket, call_draws]

/-- After calls one by one the history holds their keyed events, numbered as they came. -/
theorem receiveAll_history (name : String) (user : Option String) (patience : Patience)
    (calls : List (Call K)) (few : (Call.keyed calls).length ≤ 2 ^ 64) :
    ((unused name user patience).receiveAll calls).history = (numbered (Call.keyed calls)).reverse ∧
      ((unused name user patience).receiveAll calls).nextTicket =
        UInt64.ofNat (Call.keyed calls).length := by
  induction calls using List.reverseRecOn with
  | nil => exact ⟨rfl, rfl⟩
  | append_singleton calls call ih =>
      rw [Call.keyed_append, List.length_append] at few
      obtain ⟨entries, next⟩ := ih (by omega)
      rw [receiveAll_concat, Call.keyed_append, List.length_append, UInt64.ofNat_add]
      refine ⟨?_, by rw [receive_ticket, next]⟩
      rw [receive_history, entries, next]
      cases call with
      | event event =>
          rw [Call.keyed_event] at few ⊢
          by_cases carried : event.key.isSome
          · simp only [carried, ↓reduceIte, List.length_singleton] at few ⊢
            have ranked : (UInt64.ofNat (Call.keyed calls).length).toNat = (Call.keyed calls).length := by
              rw [UInt64.toNat_ofNat', Nat.mod_eq_of_lt (by omega)]
            -- Nothing interrupts the call, so its ticket is above all that were filed.
            rw [numbered_concat, List.reverse_concat]
            apply file_top
            intro entry member
            rw [UInt64.lt_iff_toNat_lt, ranked]
            exact numbered_below _ (by omega) entry (List.mem_reverse.mp member)
          · simp [carried]
      | _ => exact congrArg (fun events => (numbered events).reverse) (List.append_nil _).symm

-- Whether something is on record depends on the calls alone.
theorem receiveAll_isOn (name : String) (user : Option String) (patience : Patience)
    (calls : List (Call K)) (mark : Mark K) :
    mark.isOn ((unused name user patience).receiveAll calls) =
      latch mark.setBy mark.clearedBy false calls := by
  have spared : ∀ step ∈ calls.flatMap Call.steps, step.sparesRegions = true := by
    intro step member
    obtain ⟨call, _, inCall⟩ := List.mem_flatMap.mp member
    exact call_spares_regions call step inCall
  rw [(receiveAll_course _ calls).isOn mark spared, unused_isOn, calls_latch]

theorem receiveAll_lasting (name : String) (user : Option String) (patience : Patience)
    (calls : List (Call K)) (mark : Mark K) (lasts : ∀ call, mark.clearedBy call = false) :
    mark.isOn ((unused name user patience).receiveAll calls) = true ↔
      ∃ call ∈ calls, mark.setBy call = true := by
  rw [receiveAll_isOn, latch_never_off _ _ _ _ fun call _ => lasts call, Bool.false_or, List.any_eq_true]

theorem receiveAll_cleared (name : String) (user : Option String) (patience : Patience)
    (calls : List (Call K)) (mark : Mark K) (clears : ∀ call, mark.clearedBy call = call.isReset) :
    mark.isOn ((unused name user patience).receiveAll calls) = true ↔
      ∃ call ∈ Call.sinceReset calls, mark.setBy call = true := by
  rw [receiveAll_isOn, latch_since_off _ _ _ mark.cleared_setBy, List.any_eq_true]
  simp only [clears, Call.sinceReset]

theorem receiveAll_count (name : String) (user : Option String) (patience : Patience)
    (calls : List (Call K)) (counter : Counter) :
    ((unused name user patience).receiveAll calls).stats.count counter =
      UInt64.ofNat (calls.countP counter.counts) := by
  rw [(receiveAll_course _ calls).count, unused_count, amount_calls _ _ (call_raises counter), UInt64.zero_add]

/-- What a record tells of the calls that led to it. -/
structure Records (recorder : Recorder K) (calls : List (Call K)) : Prop where
  counts : ∀ counter, (recorder.stats.count counter).toNat = calls.countP counter.counts
  closed : recorder.stats.closed = true ↔ .close ∈ Call.sinceReset calls
  regionCleared : recorder.stats.regionCleared = true ↔
    ∃ event ∈ Call.delivered calls, event.query = .regionClear
  regionInvalidated : recorder.stats.regionInvalidated = true ↔
    ∃ event ∈ Call.delivered calls, event.query = .regionInvalidate
  keys : ∀ bucket key, key ∈ recorder.keys bucket ↔
    ∃ event ∈ Call.delivered (Call.sinceReset calls),
      event.base = bucket.operation ∧ event.key = some key
  keysOnce : ∀ bucket, (recorder.keys bucket).Nodup
  errors : ∀ message, message ∈ recorder.errors ↔
    ∃ event ∈ Call.failures calls, event.error.getD "" = message
  errorsOnce : recorder.errors.Nodup
  events : recorder.events = Call.keyed calls
  eventKeys : recorder.eventKeys = (Call.keyed calls).filterMap (·.key)
  /-- A copy of the figures, taken when no call is under way. -/
  copy : (Expected.survey (pure recorder : StateM Unit (Recorder K))).run () = (recorder.stats, ())

theorem receiveAll_records (name : String) (user : Option String) (patience : Patience)
    (calls : List (Call K)) (few : calls.length < 2 ^ 64) :
    Records ((unused name user patience).receiveAll calls) calls := by
  have course := receiveAll_course (unused name user patience) calls
  have keyedFew : (Call.keyed calls).length ≤ 2 ^ 64 := by
    have short := Call.keyed_length calls
    omega
  have events : ((unused name user patience).receiveAll calls).events = Call.keyed calls := by
    rw [Recorder.events, (receiveAll_history name user patience calls keyedFew).1,
      inOrder_perm _ _ (List.reverse_perm _) (numbered_ascending _ keyedFew), numbered_events]
  constructor
  case counts =>
    intro counter
    have bounded := List.countP_le_length (p := counter.counts) (l := calls)
    rw [receiveAll_count, UInt64.toNat_ofNat', Nat.mod_eq_of_lt (by omega)]
  case closed =>
    exact (receiveAll_cleared name user patience calls (.flag .closed)
      fun call => by cases call <;> rfl).trans (Mark.exists_close _)
  case regionCleared =>
    exact (receiveAll_lasting name user patience calls (.flag .regionCleared)
      fun call => by cases call <;> rfl).trans (Mark.exists_delivered _ _ Mark.regionCleared_setBy calls)
  case regionInvalidated =>
    exact (receiveAll_lasting name user patience calls (.flag .regionInvalidated)
      fun call => by cases call <;> rfl).trans (Mark.exists_delivered _ _ Mark.regionInvalidated_setBy calls)
  case keys =>
    intro bucket key
    have since := receiveAll_cleared name user patience calls (.key bucket key)
      fun call => by cases call <;> rfl
    rw [Mark.exists_delivered _ _ (Mark.key_setBy bucket key)] at since
    simpa only [Mark.isOn, holds, List.contains_iff_mem] using since
  case keysOnce =>
    intro bucket
    apply course.keys_nodup bucket
    rw [unused_keys]
    exact List.nodup_nil
  case errors =>
    intro message
    have ever := receiveAll_lasting name user patience calls (.error message)
      fun call => by cases call <;> rfl
    rw [Mark.exists_failure message] at ever
    simp only [Mark.isOn, hasError, List.contains_iff_mem] at ever
    exact ever
  case errorsOnce => exact course.errors_nodup List.nodup_nil
  case events => exact events
  case eventKeys => rw [eventKeys, events]
  case copy => exact survey_still _ ()

theorem receiveAll_records_mixed :
    ([.event (.keyed .create "a"), .close, .reset, .event (.keyed .invalidate "b"),
      .error (.region .marker)] : List (Call String)).length < 2 ^ 64 ∧
    Records ((unused "cq" none .standard).receiveAll
      [.event (.keyed .create "a"), .close, .reset, .event (.keyed .invalidate "b"),
        .error (.region .marker)])
      [.event (.keyed .create "a"), .close, .reset, .event (.keyed .invalidate "b"),
        .error (.region .marker)] :=
  ⟨by decide, receiveAll_records "cq" none .standard _ (by decide)⟩

end Recorder

end QueryRecorder
