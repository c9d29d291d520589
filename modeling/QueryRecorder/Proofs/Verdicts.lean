import QueryRecorder.Idle
import QueryRecorder.Proofs.Rounds
import QueryRecorder.Proofs.Sequence

/-!
What the verdict of a wait tells of the calls that were made before it began, when none is made any
more. The calls alone say whether a condition is fulfilled: some conditions count only what came after
the last reset, others all there ever was, and a count has to be met exactly. A wait succeeds at its
first look or not at all, and a wait in vain says what was awaited and what was there instead.
-/

namespace QueryRecorder

variable {K : Type} [DecidableEq K]

namespace Condition

/-- Whether calls made one after another on a new record fulfil a condition. -/
def FulfilledBy (calls : List (Call K)) : Condition K → Prop
  | .created key => ∃ event ∈ Call.delivered (Call.sinceReset calls),
      event.base = .create ∧ event.key = some key
  | .destroyed key => ∃ event ∈ Call.delivered (Call.sinceReset calls),
      event.base = .destroy ∧ event.key = some key
  | .invalidated key => ∃ event ∈ Call.delivered (Call.sinceReset calls),
      event.base = .invalidate ∧ event.key = some key
  | .updated key => ∃ event ∈ Call.delivered (Call.sinceReset calls),
      event.base = .update ∧ event.key = some key
  | .totalEvents n => (Call.delivered calls).length + (Call.failures calls).length = n.toNat
  | .closed => .close ∈ Call.sinceReset calls
  | .regionCleared => ∃ event ∈ Call.delivered calls, event.query = .regionClear
  | .regionInvalidated => ∃ event ∈ Call.delivered calls, event.query = .regionInvalidate
  | .failed message => ∃ event ∈ Call.failures calls,
      event.error = some message ∨ event.error = none ∧ message = ""
  | .connected n => calls.count .connected = n.toNat
  | .disconnected n => calls.count .disconnected = n.toNat

/-- What a wait in vain has to say, where `texts` are the error texts that were reported. -/
def complaint [Outlined K] (identity : String) (calls : List (Call K)) (texts : List String) :
    Condition K → String
  | .created key => "never got create event for CQ " ++ identity ++ " key " ++ shown key
  | .destroyed key => "never got destroy event for key " ++ shown key ++ " in CQ " ++ identity
  | .invalidated key => "never got invalidate event for CQ " ++ identity ++ " key " ++ shown key
  | .updated key => "never got update event for CQ " ++ identity ++ " key " ++ shown key
  | .totalEvents n =>
      "Did not receive expected number of events " ++ identity ++ " expected: " ++ toString n.toNat ++
        " received: " ++ toString ((Call.delivered calls).length + (Call.failures calls).length)
  | .closed => "never got close event for CQ " ++ identity
  | .regionCleared => "never got region clear event for CQ " ++ identity
  | .regionInvalidated => "never got region invalidate event for CQ " ++ identity
  | .failed message =>
      "never got create error for CQ " ++ identity ++ " messaged " ++ shown message ++
        " (errors received: " ++ shown texts ++ ")"
  | .connected n =>
      "Did not receive expected number of calls to cqs connected " ++ identity ++ " expected: " ++
        toString n.toNat ++ " received: " ++ toString (calls.count .connected)
  | .disconnected n =>
      "Did not receive expected number of calls to cqs disconnected " ++ identity ++ " expected: " ++
        toString n.toNat ++ " received: " ++ toString (calls.count .disconnected)

end Condition

omit [DecidableEq K] in
theorem Event.message_iff (event : Event K) (message : String) :
    event.message = message ↔ event.error = some message ∨ event.error = none ∧ message = "" := by
  unfold Event.message
  cases event.error <;> simp [eq_comm]

namespace Recorder

variable [Outlined K] (name : String) (user : Option String) (patience : Patience)
  (calls : List (Call K))

theorem holds_iff (bucket : Bucket) (key : K) :
    ((unused name user patience).receiveAll calls).holds bucket key = true ↔
      ∃ event ∈ Call.delivered (Call.sinceReset calls),
        event.base = bucket.operation ∧ event.key = some key :=
  (receiveAll_cleared name user patience calls (.key bucket key)
    fun call => by cases call <;> rfl).trans (Mark.exists_delivered _ _ (Mark.key_setBy bucket key) _)

theorem closed_iff :
    ((unused name user patience).receiveAll calls).stats.closed = true ↔
      .close ∈ Call.sinceReset calls :=
  (receiveAll_cleared name user patience calls (.flag .closed)
    fun call => by cases call <;> rfl).trans (Mark.exists_close _)

theorem regionCleared_iff :
    ((unused name user patience).receiveAll calls).stats.regionCleared = true ↔
      ∃ event ∈ Call.delivered calls, event.query = .regionClear :=
  (receiveAll_lasting name user patience calls (.flag .regionCleared)
    fun call => by cases call <;> rfl).trans (Mark.exists_delivered _ _ Mark.regionCleared_setBy calls)

theorem regionInvalidated_iff :
    ((unused name user patience).receiveAll calls).stats.regionInvalidated = true ↔
      ∃ event ∈ Call.delivered calls, event.query = .regionInvalidate :=
  (receiveAll_lasting name user patience calls (.flag .regionInvalidated)
    fun call => by cases call <;> rfl).trans
      (Mark.exists_delivered _ _ Mark.regionInvalidated_setBy calls)

theorem hasError_iff (message : String) :
    ((unused name user patience).receiveAll calls).hasError message = true ↔
      ∃ event ∈ Call.failures calls, event.message = message :=
  (receiveAll_lasting name user patience calls (.error message)
    fun call => by cases call <;> rfl).trans (Mark.exists_failure message calls)

-- Each text that was reported is listed, and once.
theorem listedErrors_iff (order : Arrangement String) :
    (((unused name user patience).receiveAll calls).listedErrors order).Nodup ∧
      ∀ message, message ∈ ((unused name user patience).receiveAll calls).listedErrors order ↔
        ∃ event ∈ Call.failures calls, event.message = message := by
  have listed := order.perm ((unused name user patience).receiveAll calls).errors
  have once := (receiveAll_course (unused name user patience) calls).errors_nodup List.nodup_nil
  refine ⟨listed.nodup_iff.mpr once, ?_⟩
  intro message
  rw [listedErrors, listed.mem_iff, ← hasError_iff name user patience calls message, hasError,
    List.contains_iff_mem]

theorem count_toNat (few : calls.length < 2 ^ 64) (counter : Counter) :
    (((unused name user patience).receiveAll calls).stats.count counter).toNat =
      calls.countP counter.counts := by
  have bounded := List.countP_le_length (p := counter.counts) (l := calls)
  rw [receiveAll_count, UInt64.toNat_ofNat', Nat.mod_eq_of_lt (by omega)]

end Recorder

namespace Condition

variable [Outlined K] (name : String) (user : Option String) (limits : Patience)
  (calls : List (Call K)) (few : calls.length < 2 ^ 64)

include few

-- A condition is met at the end of the calls if they fulfil it, and not otherwise.
theorem isMetBy_iff (condition : Condition K) :
    condition.isMetBy ((Recorder.unused name user limits).receiveAll calls) = true ↔
      condition.FulfilledBy calls := by
  have total := Recorder.count_toNat name user limits calls few .total
  have connects := Recorder.count_toNat name user limits calls few .connects
  have disconnects := Recorder.count_toNat name user limits calls few .disconnects
  rw [countP_total] at total
  rw [countP_connects] at connects
  rw [countP_disconnects] at disconnects
  cases condition with
  | created key => exact Recorder.holds_iff name user limits calls .created key
  | destroyed key => exact Recorder.holds_iff name user limits calls .destroyed key
  | invalidated key => exact Recorder.holds_iff name user limits calls .invalidated key
  | updated key => exact Recorder.holds_iff name user limits calls .updated key
  | closed => exact Recorder.closed_iff name user limits calls
  | regionCleared => exact Recorder.regionCleared_iff name user limits calls
  | regionInvalidated => exact Recorder.regionInvalidated_iff name user limits calls
  | failed message =>
      refine (Recorder.hasError_iff name user limits calls message).trans ?_
      simp only [FulfilledBy, Event.message_iff]
  | totalEvents n => rw [isMetBy, FulfilledBy, ← total, beq_iff_eq, ← UInt64.toNat_inj]; rfl
  | connected n => rw [isMetBy, FulfilledBy, ← connects, beq_iff_eq, ← UInt64.toNat_inj]; rfl
  | disconnected n => rw [isMetBy, FulfilledBy, ← disconnects, beq_iff_eq, ← UInt64.toNat_inj]; rfl

-- The error texts that a complaint lists are those of the failures that were reported.
theorem description_eq (order : Arrangement String) (condition : Condition K) :
    ∃ texts : List String, texts.Nodup ∧
      (∀ text, text ∈ texts ↔ ∃ event ∈ Call.failures calls, event.message = text) ∧
      condition.description order ((Recorder.unused name user limits).receiveAll calls) =
        condition.complaint (Recorder.unused (K := K) name user limits).identity calls texts := by
  have course := Recorder.receiveAll_course (Recorder.unused name user limits) calls
  have total := Recorder.count_toNat name user limits calls few .total
  have connects := Recorder.count_toNat name user limits calls few .connects
  have disconnects := Recorder.count_toNat name user limits calls few .disconnects
  have identity := course.identity
  obtain ⟨once, texts⟩ := Recorder.listedErrors_iff name user limits calls order
  rw [countP_total] at total
  rw [countP_connects] at connects
  rw [countP_disconnects] at disconnects
  generalize (Recorder.unused name user limits).receiveAll calls = recorder at *
  refine ⟨recorder.listedErrors order, once, texts, ?_⟩
  cases condition with
  | totalEvents n =>
      unfold complaint
      rw [← total, ← identity]
      exact shortfall_eq _ "events" recorder.identity n recorder.stats.total (by decide)
  | connected n =>
      unfold complaint
      rw [← connects, ← identity]
      exact shortfall_eq _ "calls to cqs connected" recorder.identity n recorder.stats.connects (by decide)
  | disconnected n =>
      unfold complaint
      rw [← disconnects, ← identity]
      exact shortfall_eq _ "calls to cqs disconnected" recorder.identity n recorder.stats.disconnects
        (by decide)
  | _ =>
      unfold description complaint
      rw [identity]

end Condition

/-- The verdict that is due after the calls, if the record that they led to stays as it is. -/
structure Verdict.Answers [Outlined K] (condition : Condition K) (identity : String)
    (calls : List (Call K)) (timeout : Duration) (verdict : Verdict) : Prop where
  success : verdict = .met 1 ↔ condition.FulfilledBy calls
  -- No wait succeeds at a later look.
  once : ∀ polls, verdict = .met polls → polls = 1
  vain : ∀ polls report, verdict = .timedOut polls report → ¬ condition.FulfilledBy calls ∧
    timeout ≤ report.elapsed ∧
    ∃ texts : List String, texts.Nodup ∧
      (∀ text, text ∈ texts ↔ ∃ event ∈ Call.failures calls, event.message = text) ∧
      report.description = condition.complaint identity calls texts

namespace Condition

variable [Outlined K]

/-- After calls one by one, and with none made any more, a wait answers for the calls. -/
theorem await_answers {σ : Type} (order : Arrangement String) (host : Host σ) (world : σ)
    (name : String) (user : Option String) (limits : Patience) (calls : List (Call K))
    (few : calls.length < 2 ^ 64) (condition : Condition K) (patience : Patience) (rounds : Nat) :
    ((condition.await order host (pure ((Recorder.unused name user limits).receiveAll calls)) patience
      (rounds + 1)).run world).1.Answers condition (Recorder.unused (K := K) name user limits).identity
        calls patience.timeout := by
  have met := condition.isMetBy_iff name user limits calls few
  have described := condition.description_eq name user limits calls few order
  generalize (Recorder.unused name user limits).receiveAll calls = recorder at *
  let wait := Wait.begun host (condition.criterion order host (pure recorder)) patience world
  have waited : (condition.await order host (pure recorder) patience (rounds + 1)).run world =
      wait.run (rounds + 1) 0 (host.now.run world).2 := rfl
  -- Every look finds the same, so the first one decides.
  have found (later : σ) : wait.found later = condition.isMetBy recorder := rfl
  rw [waited]
  cases answer : condition.isMetBy recorder with
  | true =>
      have fulfilled := met.mp answer
      rw [wait.run_met rounds 0 _ ((found _).trans answer)]
      constructor
      case success => exact ⟨fun _ => fulfilled, fun _ => rfl⟩
      case once =>
        rintro polls ⟨⟩
        rfl
      case vain => nofun
  | false =>
      have missed : ¬ condition.FulfilledBy calls := by
        rw [← met, answer]
        exact Bool.false_ne_true
      rcases wait.run_unmet (rounds + 1) 0 (host.now.run world).2 fun later => (found later).trans answer with
        ⟨last, _, out, ends⟩ | ends
      · rw [ends, wait.gaveUp_verdict]
        constructor
        case success => exact ⟨nofun, fun fulfilled => absurd fulfilled missed⟩
        case once => nofun
        case vain =>
          rintro polls report ⟨⟩
          exact ⟨missed, out, described⟩
      · rw [ends]
        constructor
        case success => exact ⟨nofun, fun fulfilled => absurd fulfilled missed⟩
        case once => nofun
        case vain => nofun

-- The key was reset away, and the texts that were reported are not the one awaited: both waits are in
-- vain, and the second says which texts there were, in the order in which they came.
theorem await_answers_reset :
    let order : Arrangement String := ⟨List.reverse, List.reverse_perm⟩
    let calls : List (Call String) :=
      [.event (.keyed .create "a"), .reset, .error (.failure "z"), .error (.failure "b")]
    let wait (condition : Condition String) : Verdict :=
      ((condition.await order (Idle.host ⟨1⟩)
        (pure ((Recorder.unused "cq" none .standard).receiveAll calls)) ⟨⟨3⟩, ⟨1⟩⟩ 4).run (.ofContent ())).1
    calls.length < 2 ^ 64 ∧
      (wait (.created "a")).Answers (.created "a") "cq" calls ⟨3⟩ ∧
      wait (.failed "c") = .timedOut 2
        ⟨"never got create error for CQ cq messaged \"c\" (errors received: [\"z\", \"b\"])", ⟨5⟩⟩ ∧
      ¬ (Condition.failed "c" : Condition String).FulfilledBy calls := by
  intro order calls wait
  have answers (condition : Condition String) : (wait condition).Answers condition "cq" calls ⟨3⟩ :=
    await_answers order (Idle.host ⟨1⟩) (.ofContent ()) "cq" none .standard calls (by decide) condition
      ⟨⟨3⟩, ⟨1⟩⟩ 3
  have given : wait (.failed "c") = .timedOut 2
      ⟨"never got create error for CQ cq messaged \"c\" (errors received: [\"z\", \"b\"])", ⟨5⟩⟩ := by
    decide +kernel
  exact ⟨by decide, answers (.created "a"), given, ((answers (.failed "c")).vain 2 _ given).1⟩

end Condition

end QueryRecorder
