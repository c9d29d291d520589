import QueryRecorder.Proofs.Bounds
import QueryRecorder.Proofs.Delivery

/-!
Numbers in the log. A call is counted in one turn and the log shows the count in a later one, so lines
may stand in another order than their numbers. Every number of a counter is shown by at most one line, of
the call that it was fetched for; those that no line shows were fetched by failures.
-/

namespace QueryRecorder

variable {K : Type}

-- The counter whose count the log shows with a call.
def Call.teller? : Call K → Option Counter
  | event _ => some .total
  | connected => some .connects
  | disconnected => some .disconnects
  | _ => none

/-- The line of the log on a call that was given the number. -/
def Call.printed? [Outlined K] (query : String) (number : Nat) : Call K → Option (Level × String)
  | event e => some (.trace, "CqEvent for the CQ: " ++ query ++ "; Key=" ++ shown e.key ++
      "; baseOp=" ++ e.base.logName ++ "; queryOp=" ++ e.query.logName ++
      "; totalEventCount=" ++ toString number)
  | error e => some (.trace, "CqEvent error for the CQ: " ++ query ++ "; message=" ++
      Text.quoted e.message)
  | connected => some (.debug, "CQ " ++ query ++ " connected (" ++ toString number ++ " times)")
  | disconnected => some (.debug, "CQ " ++ query ++ " disconnected (" ++ toString number ++ " times)")
  | close => some (.debug, "CQ " ++ query ++ " closed")
  | reset => none

-- The count of a counter that a notice tells.
def Notice.told? (counter : Counter) : Notice → Option Nat
  | delivered _ _ _ _ total => if counter = .total then some total.toNat else none
  | connected _ times => if counter = .connects then some times.toNat else none
  | disconnected _ times => if counter = .disconnects then some times.toNat else none
  | _ => none

namespace Step

/-- The call that a step logs. -/
def announced? : Step K → Option (Call K)
  | announce call => some call
  | _ => none

/-- The counter whose count a step tells. -/
def teller? (step : Step K) : Option Counter := step.announced?.bind Call.teller?

def tells (counter : Counter) (step : Step K) : Nat := if step.teller? = some counter then 1 else 0

end Step

theorem notice_printed [Outlined K] (call : Call K) (query : String) (fetched : UInt64) :
    (call.notice? query fetched).map Notice.line = call.printed? query (fetched + 1).toNat := by
  cases call <;> rfl

-- A line tells the count after the one that was fetched.
theorem notice_told [Outlined K] (call : Call K) (query : String) (fetched : UInt64) (counter : Counter) :
    (call.notice? query fetched).bind (Notice.told? counter) =
      if call.teller? = some counter then some (fetched + 1).toNat else none := by
  cases call <;> cases counter <;> rfl

theorem step_told [Outlined K] (step : Step K) (hand : UInt64) (recorder : Recorder K)
    (counter : Counter) :
    (step.notice? hand recorder).bind (Notice.told? counter) =
      if step.teller? = some counter then some (hand + 1).toNat else none := by
  cases step with
  | announce call => exact notice_told call recorder.name hand counter
  | _ => rfl

theorem step_notice [Outlined K] (step : Step K) (hand : UInt64) (recorder : Recorder K) :
    step.notice? hand recorder =
      step.announced?.bind fun call => call.notice? recorder.name hand := by
  cases step <;> rfl

/-- One line of the log: which worker wrote it on which call, and the count that was fetched for it. -/
structure Entry (K : Type) where
  turn : Nat
  call : Call K
  fetched : UInt64

namespace Entry

def number (entry : Entry K) : Nat := (entry.fetched + 1).toNat

-- The numbers of a counter that the entries show, in their order.
def numbers (counter : Counter) (entries : List (Entry K)) : List Nat :=
  entries.filterMap fun entry =>
    if entry.call.teller? = some counter then some entry.number else none

variable [Outlined K] (query : String)

def notices (entries : List (Entry K)) : List (Nat × Notice) :=
  entries.filterMap fun entry =>
    (entry.call.notice? query entry.fetched).map fun notice => (entry.turn, notice)

theorem notices_append (entries more : List (Entry K)) :
    notices query (entries ++ more) = notices query entries ++ notices query more :=
  List.filterMap_append

-- No line is left out, as long as each is on a call that is logged.
theorem notices_printed (entries : List (Entry K))
    (loud : ∀ entry ∈ entries, entry.call.isReset = false) :
    (notices query entries).map (fun line => (line.1, some line.2.line)) =
      entries.map fun entry => (entry.turn, entry.call.printed? query entry.number) := by
  induction entries with
  | nil => rfl
  | cons entry rest ih =>
      have later := ih fun other member => loud other (List.mem_cons_of_mem entry member)
      have here := loud entry List.mem_cons_self
      have printed := notice_printed entry.call query entry.fetched
      rw [notices, List.filterMap_cons, List.map_cons, number, ← printed, ← later]
      obtain ⟨turn, call, fetched⟩ := entry
      cases call with
      | reset => cases here
      | _ => rfl

/-- The numbers that some of the workers show are those that their notices tell. -/
theorem numbers_told (counter : Counter) (keep : Nat → Bool) (entries : List (Entry K)) :
    numbers counter (entries.filter fun entry => keep entry.turn) =
      ((notices query entries).filter fun line => keep line.1).filterMap fun line =>
        line.2.told? counter := by
  rw [numbers, notices, List.filterMap_filter, List.filterMap_filter, List.filterMap_filterMap]
  apply List.filterMap_congr
  intro entry _
  rw [number, ← notice_told entry.call query]
  cases entry.call.notice? query entry.fetched <;> simp

end Entry

/-- Each count that is to be told is fetched right before. -/
inductive Fetched : List (Step K) → Prop
  | nil : Fetched []
  | told (call : Call K) (counter : Counter) (rest : List (Step K)) (tells : call.teller? = some counter)
      (later : Fetched rest) : Fetched (.count counter :: .announce call :: rest)
  | other (step : Step K) (rest : List (Step K)) (quiet : step.teller? = none) (later : Fetched rest) :
      Fetched (step :: rest)

namespace Fetched

theorem append {steps more : List (Step K)} (first : Fetched steps) (second : Fetched more) :
    Fetched (steps ++ more) := by
  induction first with
  | nil => exact second
  | told call counter rest tells _ ih => exact .told call counter (rest ++ more) tells ih
  | other step rest quiet _ ih => exact .other step (rest ++ more) quiet ih

theorem of_quiet (steps : List (Step K)) (quiet : ∀ step ∈ steps, step.teller? = none) :
    Fetched steps := by
  induction steps with
  | nil => exact .nil
  | cons step rest ih =>
      exact .other step rest (quiet step List.mem_cons_self)
        (ih fun later member => quiet later (List.mem_cons_of_mem step member))

end Fetched

theorem classified_quiet (event : Event K) :
    ∀ step ∈ event.historySteps ++ event.baseSteps ++ event.querySteps, step.announced? = none := by
  intro step member
  rw [List.append_assoc, List.mem_append] at member
  rcases member with ordered | classified
  · unfold Event.historySteps at ordered
    split at ordered
    · simp only [List.mem_cons, List.not_mem_nil, or_false] at ordered
      rcases ordered with rfl | rfl <;> rfl
    · cases ordered
  · rcases classified_step event step classified with ⟨counter, rfl⟩ | ⟨bucket, key, rfl⟩ | ⟨flag, rfl⟩ <;>
      rfl

theorem quiet_teller (step : Step K) (quiet : step.announced? = none) : step.teller? = none := by
  rw [Step.teller?, quiet]
  rfl

theorem Fetched.call (call : Call K) : Fetched call.steps := by
  cases call with
  | event event =>
      exact .told _ .total _ rfl
        (of_quiet _ fun step member => quiet_teller step (classified_quiet event step member))
  | connected => exact .told _ .connects [] rfl .nil
  | disconnected => exact .told _ .disconnects [] rfl .nil
  | _ => exact of_quiet _ (by simp [Call.steps, Step.teller?, Step.announced?, Call.teller?])

theorem Fetched.calls (calls : List (Call K)) : Fetched (calls.flatMap Call.steps) := by
  induction calls with
  | nil => exact .nil
  | cons first rest ih => exact (Fetched.call first).append ih

/-- A call logs itself, unless it is a reset. -/
theorem call_announces (call : Call K) :
    call.steps.filterMap Step.announced? = if call.isReset then [] else [call] := by
  cases call with
  | event event =>
      have quiet := List.filterMap_eq_nil_iff.mpr (classified_quiet event)
      exact congrArg (Call.event event :: ·) quiet
  | _ => rfl

theorem calls_announce (calls : List (Call K)) :
    (calls.flatMap Call.steps).filterMap Step.announced? = calls.filter fun call => !call.isReset := by
  induction calls with
  | nil => rfl
  | cons call rest ih =>
      rw [List.flatMap_cons, List.filterMap_append, call_announces, ih, List.filter_cons]
      cases call.isReset <;> rfl

theorem call_tells (counter : Counter) (call : Call K) :
    amount (Step.tells counter) call.steps = if call.teller? = some counter then 1 else 0 := by
  cases call with
  | event event =>
      have quiet : amount (Step.tells counter)
          (event.historySteps ++ event.baseSteps ++ event.querySteps) = 0 := by
        refine amount_zero _ _ fun step member => ?_
        rw [Step.tells, quiet_teller step (classified_quiet event step member)]
        rfl
      rw [Call.steps, amount_cons, amount_cons, quiet]
      exact Nat.zero_add _
  | _ => cases counter <;> rfl

namespace Worker

/-- A worker has fetched what it is about to tell. -/
def Ready (worker : Worker K) : Prop :=
  Fetched worker.todo ∨
    ∃ step rest, worker.todo = step :: rest ∧ step.teller? ≠ none ∧ Fetched rest

/-- The number of a counter that a worker is about to tell. -/
def due? (counter : Counter) (worker : Worker K) : Option Nat :=
  if worker.todo.head?.bind Step.teller? = some counter then some (worker.hand + 1).toNat else none

theorem due_none (counter : Counter) (todo : List (Step K)) (hand : UInt64) (sheet : Stats)
    (fetched : Fetched todo) : (Worker.mk todo hand sheet).due? counter = none := by
  cases fetched with
  | nil => rfl
  | told => rfl
  | other step rest quiet _ => simp [due?, quiet]

-- What a worker tells and what it then has in hand is what it had in hand, and the number it fetched.
theorem step_numbers [Outlined K] (counter : Counter) (recorder : Recorder K) (step : Step K)
    (rest : List (Step K)) (hand : UInt64) (sheet copied : Stats)
    (ready : (Worker.mk (step :: rest) hand sheet).Ready) :
    (Worker.mk rest (step.fetch hand recorder) copied).Ready ∧
      ∃ new, ((step.notice? hand recorder).bind (Notice.told? counter)).toList ++
          ((Worker.mk rest (step.fetch hand recorder) copied).due? counter).toList =
          ((Worker.mk (step :: rest) hand sheet).due? counter).toList ++ new ∧
        (new = [] ∨ step = .count counter ∧ new = [(recorder.stats.count counter + 1).toNat]) := by
  rw [step_told]
  rcases ready with fetched | ⟨_, _, same, telling, fetched⟩
  · rw [due_none counter _ hand sheet fetched]
    cases fetched with
    | told call other later tells fetched =>
        refine ⟨.inr ⟨_, later, rfl, by simp [Step.teller?, Step.announced?, tells], fetched⟩, ?_⟩
        by_cases here : other = counter
        · subst here
          exact ⟨_, by simp [due?, Step.teller?, Step.announced?, Step.fetch, tells], .inr ⟨rfl, rfl⟩⟩
        · exact ⟨[], by simp [due?, Step.teller?, Step.announced?, tells, here], .inl rfl⟩
    | other _ _ quiet fetched =>
        refine ⟨.inl fetched, [], ?_, .inl rfl⟩
        rw [due_none counter rest _ copied fetched, quiet]
        rfl
  · cases same
    refine ⟨.inl fetched, [], ?_, .inl rfl⟩
    rw [due_none counter rest _ copied fetched, Option.toList_none, List.append_nil, List.append_nil]
    rfl

end Worker

namespace Floor

/-- The numbers of a counter that the log tells, the latest first. -/
def told (floor : Floor K) (counter : Counter) : List Nat :=
  floor.journal.filterMap fun entry => entry.2.told? counter

/-- The numbers of a counter that were fetched and are still to be told. -/
def due (floor : Floor K) (counter : Counter) : List Nat := floor.workers.filterMap (Worker.due? counter)

/-- What a worker has logged, in the order in which it did. -/
def lines (floor : Floor K) (turn : Nat) : List Notice :=
  (floor.journal.reverse.filter fun entry => entry.1 = turn).map (·.2)

/-- The numbers of a counter that were fetched by one worker and told or still to be told. -/
def numbersOf (floor : Floor K) (counter : Counter) (turn : Nat) : List Nat :=
  (floor.lines turn).filterMap (Notice.told? counter) ++
    (floor.workers[turn]?.bind (Worker.due? counter)).toList

/-- No number of a counter is told twice, or told and still in a hand, and each is one that was counted. -/
structure Numbered (counter : Counter) (floor : Floor K) : Prop where
  spare : (floor.recorder.stats.count counter).toNat +
    amount (Step.raises counter) floor.pending < 2 ^ 64
  ready : ∀ worker ∈ floor.workers, worker.Ready
  apart : (floor.told counter ++ floor.due counter).Nodup
  within : ∀ n ∈ floor.told counter ++ floor.due counter,
    1 ≤ n ∧ n ≤ (floor.recorder.stats.count counter).toNat
  rising : ∀ turn, (floor.numbersOf counter turn).Pairwise (· < ·)

theorem numbersOf_subset (floor : Floor K) (counter : Counter) (turn : Nat) :
    floor.numbersOf counter turn ⊆ floor.told counter ++ floor.due counter := by
  intro n member
  rcases List.mem_append.mp member with early | inHand
  · obtain ⟨notice, line, tells⟩ := List.mem_filterMap.mp early
    obtain ⟨entry, logged, rfl⟩ := List.mem_map.mp line
    exact List.mem_append_left _ (List.mem_filterMap.mpr
      ⟨entry, List.mem_reverse.mp (List.mem_filter.mp logged).1, tells⟩)
  · rw [Option.mem_toList, Option.bind_eq_some_iff] at inHand
    obtain ⟨worker, found, number⟩ := inHand
    exact List.mem_append_right _ (List.mem_filterMap.mpr ⟨worker, List.mem_of_getElem? found, number⟩)

section Moves

variable (recorder later : Recorder K) (before after : List (Worker K)) (worker moved : Worker K)
  (journal : List (Nat × Notice)) (notice : Option Notice) (counter : Counter)

theorem told_toList :
    notice.toList.filterMap (Notice.told? counter) = (notice.bind (Notice.told? counter)).toList := by
  cases notice with
  | none => rfl
  | some notice => cases number : notice.told? counter <;> simp [number]

theorem told_move :
    (Floor.mk later (before ++ moved :: after)
        (notice.toList.map (fun notice => (before.length, notice)) ++ journal)).told counter =
      (notice.bind (Notice.told? counter)).toList ++
        (Floor.mk recorder (before ++ worker :: after) journal).told counter := by
  rw [told, told, List.filterMap_append, List.filterMap_map, ← told_toList]
  rfl

theorem due_here :
    (Floor.mk recorder (before ++ worker :: after) journal).due counter =
      before.filterMap (Worker.due? counter) ++ (worker.due? counter).toList ++
        after.filterMap (Worker.due? counter) := by
  cases inHand : worker.due? counter <;> simp [due, inHand]

theorem lines_here :
    (Floor.mk later (before ++ moved :: after)
        (notice.toList.map (fun notice => (before.length, notice)) ++ journal)).lines before.length =
      (Floor.mk recorder (before ++ worker :: after) journal).lines before.length ++ notice.toList := by
  cases notice <;> simp [lines]

theorem lines_other (turn : Nat) (other : turn ≠ before.length) :
    (Floor.mk later (before ++ moved :: after)
        (notice.toList.map (fun notice => (before.length, notice)) ++ journal)).lines turn =
      (Floor.mk recorder (before ++ worker :: after) journal).lines turn := by
  cases notice <;> simp [lines, Ne.symm other]

theorem numbersOf_other (turn : Nat) (other : turn ≠ before.length) :
    (Floor.mk later (before ++ moved :: after)
        (notice.toList.map (fun notice => (before.length, notice)) ++ journal)).numbersOf counter turn =
      (Floor.mk recorder (before ++ worker :: after) journal).numbersOf counter turn := by
  rw [numbersOf, lines_other recorder later before after worker moved journal notice turn other,
    moved_other worker moved other]
  rfl

section Balance

variable (new : List Nat)
  (balance : (notice.bind (Notice.told? counter)).toList ++ (moved.due? counter).toList =
    (worker.due? counter).toList ++ new)

include balance

theorem numbers_move :
    ((Floor.mk later (before ++ moved :: after)
          (notice.toList.map (fun notice => (before.length, notice)) ++ journal)).told counter ++
        (Floor.mk later (before ++ moved :: after)
          (notice.toList.map (fun notice => (before.length, notice)) ++ journal)).due counter).Perm
      (new ++ ((Floor.mk recorder (before ++ worker :: after) journal).told counter ++
        (Floor.mk recorder (before ++ worker :: after) journal).due counter)) := by
  rw [told_move recorder later before after worker moved journal notice counter, due_here, due_here]
  rw [List.perm_iff_count]
  intro n
  have same := congrArg (List.count n) balance
  simp only [List.count_append] at same ⊢
  omega

theorem numbersOf_here :
    (Floor.mk later (before ++ moved :: after)
        (notice.toList.map (fun notice => (before.length, notice)) ++ journal)).numbersOf counter
          before.length =
      (Floor.mk recorder (before ++ worker :: after) journal).numbersOf counter before.length ++ new := by
  rw [numbersOf, numbersOf, lines_here recorder later before after worker moved journal notice,
    List.filterMap_append, told_toList]
  simpa using balance

end Balance

end Moves

namespace Numbered

variable {counter : Counter} {floor later : Floor K}

/-- New numbers are above all that there were, and counted. -/
theorem add (numbered : Numbered counter floor) (here : Nat) (new : List Nat)
    (spare : (later.recorder.stats.count counter).toNat +
      amount (Step.raises counter) later.pending < 2 ^ 64)
    (ready : ∀ worker ∈ later.workers, worker.Ready)
    (added : (later.told counter ++ later.due counter).Perm
      (new ++ (floor.told counter ++ floor.due counter)))
    (own : later.numbersOf counter here = floor.numbersOf counter here ++ new)
    (others : ∀ turn, turn ≠ here → later.numbersOf counter turn = floor.numbersOf counter turn)
    (ordered : new.Pairwise (· < ·))
    (fresh : ∀ n ∈ new, (floor.recorder.stats.count counter).toNat < n ∧
      n ≤ (later.recorder.stats.count counter).toNat)
    (grown : (floor.recorder.stats.count counter).toNat ≤ (later.recorder.stats.count counter).toNat) :
    Numbered counter later := by
  have below : ∀ n ∈ floor.told counter ++ floor.due counter, ∀ m ∈ new, n < m := by
    intro n member m inNew
    exact Nat.lt_of_le_of_lt (numbered.within n member).2 (fresh m inNew).1
  refine ⟨spare, ready, ?_, ?_, ?_⟩
  · rw [added.nodup_iff, List.nodup_append]
    refine ⟨ordered.imp Nat.ne_of_lt, numbered.apart, ?_⟩
    exact fun m inNew n member => (Nat.ne_of_lt (below n member m inNew)).symm
  · intro n member
    rcases List.mem_append.mp (added.mem_iff.mp member) with inNew | old
    · exact ⟨Nat.lt_of_le_of_lt (Nat.zero_le _) (fresh n inNew).1, (fresh n inNew).2⟩
    · obtain ⟨positive, bound⟩ := numbered.within n old
      exact ⟨positive, Nat.le_trans bound grown⟩
  · intro turn
    by_cases same : turn = here
    · subst same
      rw [own, List.pairwise_append]
      refine ⟨numbered.rising turn, ordered, ?_⟩
      exact fun n member m inNew => below n (floor.numbersOf_subset counter turn member) m inNew
    · rw [others turn same]
      exact numbered.rising turn

theorem turn [DecidableEq K] [Outlined K] (numbered : Numbered counter floor) {now : Nat}
    {steps : List (Step K)} (move : Turn now floor steps later) : Numbered counter later := by
  cases move with
  | pass => exact numbered
  | move recorder before after journal step rest hand sheet =>
      obtain ⟨moved, new, balance, fetched⟩ := Worker.step_numbers counter recorder step rest hand sheet
        (step.transcribe sheet recorder) (numbered.ready ⟨step :: rest, hand, sheet⟩ (by simp))
      -- The counter has room for every step that is still to be made, so this one does not wrap it.
      have spare := numbered.spare
      simp only [pending, List.flatMap_append, List.flatMap_cons, List.cons_append, amount_append,
        amount_cons] at spare
      have counted : ((step.perform hand recorder).stats.count counter).toNat =
          (recorder.stats.count counter).toNat + step.raises counter := by
        have few : step.raises counter < 2 ^ 64 := by omega
        rw [count_perform, UInt64.toNat_add, UInt64.toNat_ofNat', Nat.mod_eq_of_lt few]
        exact Nat.mod_eq_of_lt (by omega)
      refine numbered.add before.length new ?_ (moved_workers numbered.ready moved)
        (numbers_move _ _ _ _ _ _ _ _ counter new balance)
        (numbersOf_here _ _ _ _ _ _ _ _ counter new balance)
        (numbersOf_other _ _ _ _ _ _ _ _ counter) ?_ ?_ ?_
      · simp only [pending, List.flatMap_append, List.flatMap_cons, amount_append, counted]
        omega
      · rcases fetched with rfl | ⟨_, rfl⟩
        · exact List.Pairwise.nil
        · exact List.pairwise_singleton _ _
      · intro n member
        rcases fetched with rfl | ⟨rfl, rfl⟩
        · cases member
        · have raised : (recorder.stats.count counter + 1).toNat =
              ((Step.perform hand recorder (.count counter)).stats.count counter).toNat := by
            rw [count_perform]
            simp [Step.raises]
          rw [List.mem_singleton.mp member, raised, counted]
          simp [Step.raises]
      · rw [counted]
        exact Nat.le_add_right _ _

end Numbered

-- The calls that a worker has still to log.
def unsaid (floor : Floor K) (turn : Nat) : List (Call K) :=
  (floor.workers[turn]?.toList.flatMap (·.todo)).filterMap Step.announced?

/-- The log shows one call after another, each with a number that was fetched, and of every worker its
calls in their order. -/
structure Logged [Outlined K] (start floor : Floor K) (entries : List (Entry K)) : Prop where
  named : floor.recorder.name = start.recorder.name
  notices : floor.journal.reverse = Entry.notices start.recorder.name entries
  shares : ∀ turn, (entries.filter fun entry => entry.turn = turn).map (·.call) ++ floor.unsaid turn =
    start.unsaid turn

-- What the step logs is no longer to be logged.
theorem unsaid_move (recorder later : Recorder K) (before after : List (Worker K)) (step : Step K)
    (rest : List (Step K)) (hand last : UInt64) (sheet copied : Stats)
    (journal journal' : List (Nat × Notice)) (turn : Nat) :
    (Floor.mk recorder (before ++ ⟨step :: rest, hand, sheet⟩ :: after) journal).unsaid turn =
      (if before.length = turn then step.announced?.toList else []) ++
        (Floor.mk later (before ++ ⟨rest, last, copied⟩ :: after) journal').unsaid turn := by
  by_cases here : before.length = turn
  · subst here
    cases said : step.announced? <;> simp [unsaid, said]
  · have other : turn ≠ before.length := fun same => here same.symm
    rw [if_neg here, List.nil_append, unsaid, unsaid,
      moved_other ⟨step :: rest, hand, sheet⟩ ⟨rest, last, copied⟩ other]

theorem Logged.turn [DecidableEq K] [Outlined K] {start floor later : Floor K}
    {entries : List (Entry K)} {now : Nat} {steps : List (Step K)}
    (logged : Logged start floor entries) (move : Turn now floor steps later) :
    ∃ more, Logged start later (entries ++ more) := by
  cases move with
  | pass => exact ⟨[], by rwa [List.append_nil]⟩
  | move recorder before after journal step rest hand sheet =>
      refine ⟨step.announced?.toList.map fun call => ⟨before.length, call, hand⟩,
        (name_perform hand recorder step).trans logged.named, ?_, ?_⟩
      · have named : recorder.name = start.recorder.name := logged.named
        rw [List.reverse_append, logged.notices, Entry.notices_append, step_notice, named]
        cases step.announced? with
        | none => rfl
        | some call => cases line : call.notice? start.recorder.name hand <;> simp [Entry.notices, line]
      · intro turn
        have share := logged.shares turn
        rw [unsaid_move recorder (step.perform hand recorder) before after step rest hand
          (step.fetch hand recorder) sheet (step.transcribe sheet recorder) journal] at share
        rw [← share, List.filter_append, List.map_append, List.append_assoc]
        congr 2
        by_cases here : before.length = turn <;> cases step.announced? <;> simp [here]

section Runs

variable [DecidableEq K] [Outlined K]

theorem run_logged (start : Floor K) (fresh : start.journal = []) (schedule : List Nat) :
    ∃ entries, Logged start (start.run schedule) entries := by
  apply run_turns (motive := fun _ floor => ∃ entries, Logged start floor entries)
  · refine ⟨[], rfl, ?_, fun _ => rfl⟩
    rw [fresh]
    rfl
  · rintro _ _ _ _ _ ⟨entries, logged⟩ move
    obtain ⟨more, later⟩ := logged.turn move
    exact ⟨entries ++ more, later⟩

/-- The log tells as many numbers of a counter as there were steps that tell one. -/
theorem run_told (start : Floor K) (fresh : start.journal = []) (schedule : List Nat)
    (counter : Counter) :
    ((start.run schedule).told counter).length =
      amount (Step.tells counter) (start.made schedule) := by
  apply run_turns (motive := fun done floor =>
    (floor.told counter).length = amount (Step.tells counter) done)
  · rw [told, fresh]
    rfl
  · intro done floor turn steps later told move
    cases move with
    | pass => rw [List.append_nil, told]
    | move recorder before after journal step rest hand sheet =>
        rw [told_move recorder _ before after ⟨step :: rest, hand, sheet⟩, List.length_append, told,
          step_told, amount_append, amount_cons, Step.tells, Nat.add_comm]
        by_cases telling : step.teller? = some counter
        · rw [if_pos telling, if_pos telling]
          rfl
        · rw [if_neg telling, if_neg telling]
          rfl

section Threads

variable (name : String) (user : Option String) (patience : Patience) (threads : List (List (Call K)))
  (few : threads.flatten.length < 2 ^ 64) (schedule : List Nat)

include few

theorem threads_numbered (counter : Counter) :
    Numbered counter ((ofThreads name user patience threads).run schedule) := by
  apply run_turns (motive := fun _ floor => Numbered counter floor)
  · have ready : ∀ worker ∈ (ofThreads name user patience threads).workers, Fetched worker.todo := by
      intro worker member
      obtain ⟨calls, _, rfl⟩ := List.mem_map.mp member
      exact Fetched.calls calls
    have empty : (ofThreads name user patience threads).due counter = [] := by
      apply List.filterMap_eq_nil_iff.mpr
      exact fun worker member => Worker.due_none counter _ worker.hand worker.sheet (ready worker member)
    have none : (ofThreads name user patience threads).told counter ++
        (ofThreads name user patience threads).due counter = [] := by
      rw [empty]
      rfl
    refine ⟨threads_counts name user patience threads few counter,
      fun worker member => .inl (ready worker member), by rw [none]; exact List.nodup_nil,
      by rw [none]; nofun, ?_⟩
    intro turn
    have no := (ofThreads name user patience threads).numbersOf_subset counter turn
    rw [none] at no
    rw [List.subset_nil.mp no]
    exact List.Pairwise.nil
  · exact fun _ _ _ _ _ numbered move => numbered.turn move

end Threads

end Runs

end Floor

theorem countP_teller (counter : Counter) (tellers : counter ∈ [.connects, .disconnects])
    (calls : List (Call K)) :
    (calls.countP fun call => call.teller? = some counter) = calls.countP counter.counts := by
  apply List.countP_congr
  intro call _
  cases counter <;> simp at tellers <;> cases call <;> simp [Call.teller?, Counter.counts]

theorem countP_teller_total (calls : List (Call K)) :
    (calls.countP fun call => call.teller? = some .total) = (Call.delivered calls).length := by
  rw [Call.delivered, List.length_filterMap_eq_countP]
  apply List.countP_congr
  intro call _
  cases call <;> simp [Call.teller?, Call.delivered?]

namespace Floor

/-- No number that a worker fetches, or adds one to for the log, is the last of the 64-bit numbers. -/
structure Unwrapped (floor : Floor K) : Prop where
  fetching : ∀ worker ∈ floor.workers, ∀ counter rest, worker.todo = .count counter :: rest →
    (floor.recorder.stats.count counter).toNat + 1 < 2 ^ 64
  telling : ∀ worker ∈ floor.workers, ∀ call rest, worker.todo = .announce call :: rest →
    call.teller? ≠ none → worker.hand.toNat + 1 < 2 ^ 64

/-- What the log of a finished run shows, line by line, of the calls of the threads and of the numbers
that they were given. -/
structure Announces [Outlined K] (name : String) (threads : List (List (Call K))) (floor : Floor K)
    (entries : List (Entry K)) : Prop where
  lines : floor.journal.reverse.map (fun line => (line.1, some line.2.line)) =
    entries.map fun entry => (entry.turn, entry.call.printed? name entry.number)
  calls : ∀ turn, (entries.filter fun entry => entry.turn = turn).map (·.call) =
    (threads.getD turn []).filter fun call => !call.isReset
  distinct : (Entry.numbers .total entries).Nodup
  within : ∀ n ∈ Entry.numbers .total entries, 1 ≤ n ∧ n ≤ floor.recorder.stats.total.toNat
  rising : ∀ turn, (Entry.numbers .total (entries.filter fun entry => entry.turn = turn)).Pairwise (· < ·)
  each : (Entry.numbers .total entries).length = (Call.delivered threads.flatten).length
  untold : ((List.range' 1 floor.recorder.stats.total.toNat).filter
    fun n => n ∉ Entry.numbers .total entries).length = (Call.failures threads.flatten).length
  connects : (Entry.numbers .connects entries).Perm
    (List.range' 1 floor.recorder.stats.connects.toNat)
  disconnects : (Entry.numbers .disconnects entries).Perm
    (List.range' 1 floor.recorder.stats.disconnects.toNat)

namespace Numbered

variable {counter : Counter} {floor : Floor K}

theorem unwrapped (numbered : ∀ counter, Numbered counter floor) : floor.Unwrapped := by
  constructor
  case fetching =>
    intro worker member counter rest todo
    have ahead : Step.count counter ∈ floor.pending :=
      List.mem_flatMap.mpr ⟨worker, member, by rw [todo]; exact List.mem_cons_self⟩
    obtain ⟨before, after, split⟩ := List.append_of_mem ahead
    have spare := (numbered counter).spare
    rw [split, amount_append, amount_cons, Step.raises, if_pos rfl] at spare
    omega
  case telling =>
    intro worker member call rest todo telling
    obtain ⟨counter, tells⟩ := Option.ne_none_iff_exists'.mp telling
    have inHand : worker.due? counter = some (worker.hand + 1).toNat := by
      simp [Worker.due?, todo, Step.teller?, Step.announced?, tells]
    have positive := ((numbered counter).within _ (List.mem_append_right _
      (List.mem_filterMap.mpr ⟨worker, member, inHand⟩))).1
    have below := worker.hand.toNat_lt
    rw [UInt64.toNat_add, UInt64.toNat_one] at positive
    omega

section Settled

variable (numbered : Numbered counter floor)

include numbered

theorem told_within :
    ∀ n ∈ floor.told counter, 1 ≤ n ∧ n ≤ (floor.recorder.stats.count counter).toNat :=
  fun n member => numbered.within n (List.mem_append_left _ member)

theorem told_subset :
    floor.told counter ⊆ List.range' 1 (floor.recorder.stats.count counter).toNat := by
  intro n member
  obtain ⟨positive, bound⟩ := numbered.told_within n member
  rw [List.mem_range'_1]
  omega

variable (settled : floor.due counter = [])

include settled

theorem settled_nodup : (floor.told counter).Nodup := by
  have apart := numbered.apart
  rwa [settled, List.append_nil] at apart

-- As many numbers as there are, and none twice: each of them once.
theorem settled_perm
    (every : (floor.recorder.stats.count counter).toNat = (floor.told counter).length) :
    (floor.told counter).Perm (List.range' 1 (floor.recorder.stats.count counter).toNat) := by
  have sub := List.subperm_of_subset (numbered.settled_nodup settled) numbered.told_subset
  refine sub.perm_of_length_le ?_
  rw [List.length_range', every]

theorem settled_untold :
    ((List.range' 1 (floor.recorder.stats.count counter).toNat).filter
        fun n => n ∉ floor.told counter).length + (floor.told counter).length =
      (floor.recorder.stats.count counter).toNat := by
  have told : ((List.range' 1 (floor.recorder.stats.count counter).toNat).filter
      fun n => n ∈ floor.told counter).Perm (floor.told counter) := by
    apply (List.perm_ext_iff_of_nodup (List.Nodup.filter _ List.nodup_range')
      (numbered.settled_nodup settled)).mpr
    intro n
    rw [List.mem_filter, decide_eq_true_eq]
    exact ⟨fun both => both.2, fun member => ⟨numbered.told_subset member, member⟩⟩
  have split := @List.length_eq_length_filter_add _
    (List.range' 1 (floor.recorder.stats.count counter).toNat) fun n => n ∈ floor.told counter
  rw [told.length_eq, List.length_range'] at split
  simp only [decide_not]
  omega

end Settled

end Numbered

theorem done_due (floor : Floor K) (done : floor.isDone = true) (counter : Counter) :
    floor.due counter = [] := by
  apply List.filterMap_eq_nil_iff.mpr
  intro worker member
  have idle := List.isEmpty_iff.mp (List.all_eq_true.mp done worker member)
  simp [Worker.due?, idle]

theorem done_unsaid (floor : Floor K) (done : floor.isDone = true) (turn : Nat) :
    floor.unsaid turn = [] := by
  unfold unsaid
  cases found : floor.workers[turn]? with
  | none => rfl
  | some worker =>
      have idle := List.isEmpty_iff.mp
        (List.all_eq_true.mp done worker (List.mem_of_getElem? found))
      simp [idle]

-- The numbers that the lines show are those that the notices tell, from the first notice on.
theorem logged_numbers [Outlined K] (name : String) (entries : List (Entry K)) (floor : Floor K)
    (notices : floor.journal.reverse = Entry.notices name entries) (counter : Counter) :
    Entry.numbers counter entries = (floor.told counter).reverse ∧
      ∀ turn, Entry.numbers counter (entries.filter fun entry => entry.turn = turn) =
        (floor.lines turn).filterMap (Notice.told? counter) := by
  constructor
  · have all := Entry.numbers_told name counter (fun _ => true) entries
    rwa [List.filter_true, List.filter_true, ← notices, List.filterMap_reverse] at all
  · intro turn
    rw [lines, notices, List.filterMap_map]
    exact Entry.numbers_told name counter (fun other => other = turn) entries

section Finished

variable [DecidableEq K] [Outlined K] (name : String) (user : Option String) (patience : Patience)
  (threads : List (List (Call K))) (schedule : List Nat)
  (done : ((ofThreads name user patience threads).run schedule).isDone = true)

omit [DecidableEq K] [Outlined K] in
theorem ofThreads_unsaid (turn : Nat) :
    (ofThreads name user patience threads).unsaid turn =
      (threads.getD turn []).filter fun call => !call.isReset := by
  simp only [unsaid, ofThreads, start, List.getElem?_map, List.getD_eq_getElem?_getD]
  cases threads[turn]? with
  | none => rfl
  | some calls =>
      rw [← calls_announce]
      simp [Worker.ofCalls, Worker.ofSteps]

include done

theorem done_told (counter : Counter) :
    (((ofThreads name user patience threads).run schedule).told counter).length =
      threads.flatten.countP fun call => call.teller? = some counter := by
  rw [run_told _ rfl schedule counter,
    amount_perm _ (done_made name user patience threads schedule done),
    amount_calls _ (fun call => call.teller? = some counter) (by simpa using call_tells counter)]

variable (few : threads.flatten.length < 2 ^ 64)

include few

theorem done_count (counter : Counter) :
    (((ofThreads name user patience threads).run schedule).recorder.stats.count counter).toNat =
      threads.flatten.countP counter.counts := by
  rw [made_count name user patience threads schedule few counter,
    amount_perm _ (done_made name user patience threads schedule done),
    amount_calls _ _ (call_raises counter)]

/-- In every finished run the numbers in the log are those that the calls were given, no number twice and
none left out but those of the failures; and at no moment of it was a number the last of 64 bits. -/
theorem run_announces :
    (∃ entries, ((ofThreads name user patience threads).run schedule).Announces name threads entries) ∧
      ∀ moment, moment <+: schedule →
        ((ofThreads name user patience threads).run moment).Unwrapped := by
  have numbered := threads_numbered name user patience threads few
  have settled := done_due _ done
  have told := done_told name user patience threads schedule done
  have count := done_count name user patience threads schedule done few
  obtain ⟨entries, logged⟩ := run_logged (ofThreads name user patience threads) rfl schedule
  have shown := logged_numbers name entries _ logged.notices
  have calls (turn : Nat) : (entries.filter fun entry => entry.turn = turn).map (·.call) =
      (threads.getD turn []).filter fun call => !call.isReset := by
    have share := logged.shares turn
    rwa [done_unsaid _ done, List.append_nil, ofThreads_unsaid] at share
  have loud : ∀ entry ∈ entries, entry.call.isReset = false := by
    intro entry member
    have own : entry.call ∈ (entries.filter fun other => other.turn = entry.turn).map (·.call) :=
      List.mem_map_of_mem (List.mem_filter.mpr ⟨member, decide_eq_true rfl⟩)
    rw [calls] at own
    simpa using (List.mem_filter.mp own).2
  refine ⟨⟨entries, ?_⟩, fun moment _ => Numbered.unwrapped (numbered moment)⟩
  constructor
  case lines =>
    rw [logged.notices]
    exact Entry.notices_printed name entries loud
  case calls => exact calls
  case distinct =>
    rw [(shown .total).1, List.nodup_reverse]
    exact (numbered schedule .total).settled_nodup (settled .total)
  case within =>
    intro n member
    rw [(shown .total).1, List.mem_reverse] at member
    exact (numbered schedule .total).told_within n member
  case rising =>
    intro turn
    rw [(shown .total).2]
    exact (List.pairwise_append.mp ((numbered schedule .total).rising turn)).1
  case each => rw [(shown .total).1, List.length_reverse, told, countP_teller_total]
  case untold =>
    have rest := (numbered schedule .total).settled_untold (settled .total)
    have total := (count .total).trans (countP_total threads.flatten)
    rw [told, countP_teller_total, total] at rest
    change ((List.range' 1 (((ofThreads name user patience threads).run
      schedule).recorder.stats.count .total).toNat).filter _).length = _
    simp only [(shown .total).1, List.mem_reverse]
    rw [total]
    omega
  case connects =>
    rw [(shown .connects).1]
    refine (List.reverse_perm _).trans ((numbered schedule .connects).settled_perm (settled .connects) ?_)
    rw [told, count, countP_teller .connects (by simp)]
  case disconnects =>
    rw [(shown .disconnects).1]
    refine (List.reverse_perm _).trans
      ((numbered schedule .disconnects).settled_perm (settled .disconnects) ?_)
    rw [told, count, countP_teller .disconnects (by simp)]

end Finished

-- The thread that is counted first logs last; the third number is that of the failure.
theorem run_announces_crossed :
    let threads : List (List (Call String)) :=
      [[.event (.keyed .create "a")], [.event (.keyed .create "b"), .error (.failure "e"), .connected]]
    let last := (ofThreads "cq" none .standard threads).run
      ([0, 1, 1, 0, 0, 0, 0, 0, 0] ++ List.replicate 11 1)
    threads.flatten.length < 2 ^ 64 ∧ last.isDone = true ∧
      (∃ entries, last.Announces "cq" threads entries) ∧
      last.journal.reverse.map (fun line => (line.1, line.2.line)) =
        [(1, .trace, "CqEvent for the CQ: cq; Key=Some(\"b\"); baseOp=CREATE; queryOp=CREATE; " ++
            "totalEventCount=2"),
          (0, .trace, "CqEvent for the CQ: cq; Key=Some(\"a\"); baseOp=CREATE; queryOp=CREATE; " ++
            "totalEventCount=1"),
          (1, .trace, "CqEvent error for the CQ: cq; message=\"e\""),
          (1, .debug, "CQ cq connected (1 times)")] ∧
      ((ofThreads "cq" none .standard threads).run [0, 1]).Unwrapped := by
  intro threads last
  have few : threads.flatten.length < 2 ^ 64 := by decide
  have done : last.isDone = true := by decide
  obtain ⟨announces, unwrapped⟩ := run_announces "cq" none .standard threads _ done few
  exact ⟨few, done, announces, by decide +kernel, unwrapped [0, 1] ⟨_, rfl⟩⟩

end Floor

end QueryRecorder
