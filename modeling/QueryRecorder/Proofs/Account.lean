import QueryRecorder.Call
import Mathlib.Algebra.BigOperators.Group.List.Basic
import Mathlib.Algebra.Ring.Nat
import Mathlib.Data.List.DropRight

/-!
What calls amount to, told from the calls alone: which of them a counter counts, which events were
delivered, which failures were reported, and what came after the last reset. The second part tells
the same of the steps that a call consists of. Nothing here runs a step.
-/

namespace QueryRecorder

variable {K : Type}

/-- The change by which a key enters a set. An invalidation has a set of its own. -/
def Bucket.operation : Bucket → Operation
  | .created => .create
  | .updated => .update
  | .destroyed => .destroy
  | .invalidated => .invalidate

/-- Whether a counter counts a call. Invalidations are deletions too. -/
def Counter.counts : Counter → Call K → Bool
  | .total, .event _ => true
  | .total, .error _ => true
  | .creates, .event e => e.base = .create
  | .updates, .event e => e.base = .update
  | .deletes, .event e => e.base = .destroy || e.base = .invalidate
  | .invalidates, .event e => e.base = .invalidate
  | .errors, .error _ => true
  | .queryInserts, .event e => e.query = .create
  | .queryUpdates, .event e => e.query = .update
  | .queryDeletes, .event e => e.query = .destroy
  | .queryInvalidates, .event e => e.query = .invalidate
  | .connects, .connected => true
  | .disconnects, .disconnected => true
  | _, _ => false

namespace Call

def delivered? : Call K → Option (Event K)
  | event e => some e
  | _ => none

def failure? : Call K → Option (Event K)
  | error e => some e
  | _ => none

def isReset : Call K → Bool
  | reset => true
  | _ => false

def delivered (calls : List (Call K)) : List (Event K) := calls.filterMap delivered?

def failures (calls : List (Call K)) : List (Event K) := calls.filterMap failure?

/-- The delivered events that carry a key. -/
def keyed (calls : List (Call K)) : List (Event K) :=
  (delivered calls).filter fun event => event.key.isSome

/-- The calls after the last reset, or all of them if there was none. -/
def sinceReset (calls : List (Call K)) : List (Call K) := calls.rtakeWhile fun call => !call.isReset

theorem keyed_append (calls more : List (Call K)) : keyed (calls ++ more) = keyed calls ++ keyed more := by
  simp [keyed, delivered]

theorem keyed_event (event : Event K) :
    keyed [.event event] = if event.key.isSome then [event] else [] := by
  cases carried : event.key <;> simp [keyed, delivered, delivered?, carried]

theorem keyed_length (calls : List (Call K)) : (keyed calls).length ≤ calls.length := by
  have kept := List.length_filter_le (fun event : Event K => event.key.isSome) (delivered calls)
  have found := List.length_filterMap_le delivered? calls
  exact Nat.le_trans kept found

theorem mem_delivered (calls : List (Call K)) (event : Event K) :
    event ∈ delivered calls ↔ .event event ∈ calls := by
  simp only [delivered, List.mem_filterMap]
  constructor
  · rintro ⟨call, member, found⟩
    cases call <;> simp [delivered?] at found
    subst found
    exact member
  · intro member
    exact ⟨.event event, member, rfl⟩

theorem mem_failures (calls : List (Call K)) (event : Event K) :
    event ∈ failures calls ↔ .error event ∈ calls := by
  simp only [failures, List.mem_filterMap]
  constructor
  · rintro ⟨call, member, found⟩
    cases call <;> simp [failure?] at found
    subst found
    exact member
  · intro member
    exact ⟨.error event, member, rfl⟩

end Call

theorem countP_total (calls : List (Call K)) :
    calls.countP Counter.total.counts = (Call.delivered calls).length + (Call.failures calls).length := by
  induction calls with
  | nil => rfl
  | cons call rest ih =>
      simp only [Call.delivered, Call.failures, List.countP_cons, List.filterMap_cons] at ih ⊢
      cases call <;> simp [Counter.counts, Call.delivered?, Call.failure?, ih] <;> omega

theorem countP_connects [DecidableEq K] (calls : List (Call K)) :
    calls.countP Counter.connects.counts = calls.count .connected := by
  apply List.countP_congr
  intro call _
  cases call <;> simp [Counter.counts]

theorem countP_disconnects [DecidableEq K] (calls : List (Call K)) :
    calls.countP Counter.disconnects.counts = calls.count .disconnected := by
  apply List.countP_congr
  intro call _
  cases call <;> simp [Counter.counts]

/-- Something that a recorder has on record or not: a key in a set, an error text, or a flag. -/
inductive Mark (K : Type)
  | key (bucket : Bucket) (key : K)
  | error (message : String)
  | flag (flag : Flag)

namespace Mark

variable [DecidableEq K]

def isOn (recorder : Recorder K) : Mark K → Bool
  | key bucket k => recorder.holds bucket k
  | error message => recorder.hasError message
  | flag f => recorder.stats.flag f

def setBy : Mark K → Call K → Bool
  | key bucket k, .event e => e.base = bucket.operation && e.key = some k
  | error message, .error e => e.message = message
  | flag .closed, .close => true
  | flag .regionCleared, .event e => e.query = .regionClear
  | flag .regionInvalidated, .event e => e.query = .regionInvalidate
  | _, _ => false

def clearedBy : Mark K → Call K → Bool
  | key _ _, .reset => true
  | flag .closed, .reset => true
  | _, _ => false

def setAt : Mark K → Step K → Bool
  | key bucket k, .keep other added => bucket = other && k = added
  | error message, .keepError added => added = message
  | flag f, .setFlag other value => f = other && value
  | _, _ => false

/-- Whether a step takes the mark off the record. Errors and region flags are never taken off. -/
def clearedAt : Mark K → Step K → Bool
  | key bucket _, .clear other => bucket = other
  | flag .closed, .setFlag .closed value => !value
  | _, _ => false

-- A mark that certain events put on record is there if one of them was delivered.
theorem exists_delivered (mark : Mark K) (sets : Event K → Prop)
    (exact : ∀ call, mark.setBy call = true ↔ ∃ event, call = .event event ∧ sets event)
    (calls : List (Call K)) :
    (∃ call ∈ calls, mark.setBy call = true) ↔ ∃ event ∈ Call.delivered calls, sets event := by
  simp only [exact]
  constructor
  · rintro ⟨_, member, event, rfl, holds⟩
    exact ⟨event, (Call.mem_delivered calls event).mpr member, holds⟩
  · rintro ⟨event, member, holds⟩
    exact ⟨_, (Call.mem_delivered calls event).mp member, event, rfl, holds⟩

theorem key_setBy (bucket : Bucket) (k : K) (call : Call K) :
    (key bucket k).setBy call = true ↔
      ∃ event, call = .event event ∧ event.base = bucket.operation ∧ event.key = some k := by
  cases call <;> simp [setBy]

theorem regionCleared_setBy (call : Call K) :
    (flag .regionCleared : Mark K).setBy call = true ↔
      ∃ event, call = .event event ∧ event.query = .regionClear := by
  cases call <;> simp [setBy]

theorem regionInvalidated_setBy (call : Call K) :
    (flag .regionInvalidated : Mark K).setBy call = true ↔
      ∃ event, call = .event event ∧ event.query = .regionInvalidate := by
  cases call <;> simp [setBy]

theorem exists_failure (message : String) (calls : List (Call K)) :
    (∃ call ∈ calls, (error message).setBy call = true) ↔
      ∃ event ∈ Call.failures calls, event.message = message := by
  constructor
  · rintro ⟨call, member, set⟩
    cases call <;> simp [setBy] at set
    exact ⟨_, (Call.mem_failures calls _).mpr member, set⟩
  · rintro ⟨event, member, same⟩
    exact ⟨_, (Call.mem_failures calls event).mp member, by simpa [setBy] using same⟩

theorem exists_close (calls : List (Call K)) :
    (∃ call ∈ calls, (flag .closed : Mark K).setBy call = true) ↔ .close ∈ calls := by
  constructor
  · rintro ⟨call, member, set⟩
    cases call <;> simp [setBy] at set
    exact member
  · intro member
    exact ⟨.close, member, rfl⟩

theorem cleared_setBy (mark : Mark K) (call : Call K) (off : mark.clearedBy call = true) :
    mark.setBy call = false := by
  cases call with
  | reset =>
      cases mark with
      | flag flag => cases flag <;> rfl
      | _ => rfl
  | _ =>
      cases mark with
      | flag flag => cases flag <;> simp [clearedBy] at off
      | _ => simp [clearedBy] at off

end Mark

/-- Whether something is on after items each of which may turn it on or off. -/
def latch {α : Type} (turnsOn turnsOff : α → Bool) (on : Bool) (items : List α) : Bool :=
  items.foldl (fun on item => turnsOn item || (on && !turnsOff item)) on

section Latch

variable {α : Type} (turnsOn turnsOff : α → Bool)

theorem latch_append (on : Bool) (items more : List α) :
    latch turnsOn turnsOff on (items ++ more) =
      latch turnsOn turnsOff (latch turnsOn turnsOff on items) more := by
  simp [latch]

theorem latch_concat (on : Bool) (items : List α) (item : α) :
    latch turnsOn turnsOff on (items ++ [item]) =
      (turnsOn item || (latch turnsOn turnsOff on items && !turnsOff item)) := by
  simp [latch]

theorem latch_never_off (on : Bool) (items : List α)
    (stays : ∀ item ∈ items, turnsOff item = false) :
    latch turnsOn turnsOff on items = (on || items.any turnsOn) := by
  induction items generalizing on with
  | nil => simp [latch]
  | cons item rest ih =>
      have tail := ih (turnsOn item || (on && !turnsOff item))
        fun other member => stays other (List.mem_cons_of_mem item member)
      have head := stays item List.mem_cons_self
      rw [head, Bool.not_false, Bool.and_true] at tail
      simp only [latch, List.foldl_cons, head, Bool.not_false, Bool.and_true, List.any_cons] at tail ⊢
      rw [tail, Bool.or_comm (turnsOn item) on, Bool.or_assoc]

theorem latch_since_off (items : List α)
    (apart : ∀ item, turnsOff item = true → turnsOn item = false) :
    latch turnsOn turnsOff false items =
      (items.rtakeWhile fun item => !turnsOff item).any turnsOn := by
  induction items using List.reverseRecOn with
  | nil => simp [latch]
  | append_singleton items item ih =>
      rw [latch_concat, List.rtakeWhile_concat, ih]
      cases off : turnsOff item with
      | false => simp [Bool.or_comm]
      | true => simp [apart item off]

/-- On is what was turned on and not turned off again. -/
theorem latch_iff (items : List α) :
    latch turnsOn turnsOff false items = true ↔
      ∃ before item after, items = before ++ item :: after ∧ turnsOn item = true ∧
        ∀ later ∈ after, turnsOff later = false := by
  -- The last item decides, so the induction goes from the end.
  induction items using List.reverseRecOn with
  | nil => simp [latch]
  | append_singleton items last ih =>
      rw [latch_concat, Bool.or_eq_true, Bool.and_eq_true, ih]
      constructor
      · rintro (set | ⟨⟨before, item, after, rfl, set, stays⟩, kept⟩)
        · exact ⟨items, last, [], rfl, set, by simp⟩
        · refine ⟨before, item, after ++ [last], by simp, set, ?_⟩
          intro later member
          rcases List.mem_append.mp member with inAfter | atEnd
          · exact stays later inAfter
          · rw [List.mem_singleton.mp atEnd]
            simpa using kept
      · rintro ⟨before, item, after, same, set, stays⟩
        rcases List.eq_nil_or_concat after with rfl | ⟨front, other, rfl⟩
        · left
          have ends := List.append_inj_right' same rfl
          rw [(List.cons.inj ends).1]
          exact set
        · right
          rw [List.concat_eq_append, ← List.cons_append, ← List.append_assoc] at same
          obtain ⟨start, ends⟩ := List.append_inj' same rfl
          have off := stays other (by simp)
          rw [← (List.cons.inj ends).1] at off
          exact ⟨⟨before, item, front, start, set, fun later member => stays later (by simp [member])⟩,
            by simp [off]⟩

end Latch

end QueryRecorder
