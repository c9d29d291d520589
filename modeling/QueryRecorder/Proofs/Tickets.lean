import QueryRecorder.Proofs.History
import QueryRecorder.Proofs.Turns

/-!
Tickets on a floor. Drawing a ticket and filing the event under it are two turns, and any number of
other turns may lie between them. The ledger of a run tells who drew which ticket for which event:
an entry of the ledger is in the history already or still in the hand of one worker. So a ticket is
fresh when its event is filed, and no entry of the history is ever overwritten.
-/

namespace QueryRecorder

variable {K : Type}

/-- Every draw is followed by the filing of an event, and nothing else is filed. -/
inductive Paired : List (Step K) → Prop
  | nil : Paired []
  | pair (event : Event K) (rest : List (Step K)) (later : Paired rest) :
      Paired (.draw :: .file event :: rest)
  | other (step : Step K) (rest : List (Step K)) (idle : step.draws = 0) (unfiled : step.filed? = none)
      (later : Paired rest) : Paired (step :: rest)

namespace Paired

theorem append {steps more : List (Step K)} (first : Paired steps) (second : Paired more) :
    Paired (steps ++ more) := by
  induction first with
  | nil => exact second
  | pair event rest _ ih => exact .pair event (rest ++ more) ih
  | other step rest idle unfiled _ ih => exact .other step (rest ++ more) idle unfiled ih

theorem of_others (steps : List (Step K))
    (others : ∀ step ∈ steps, step.draws = 0 ∧ step.filed? = none) : Paired steps := by
  induction steps with
  | nil => exact .nil
  | cons step rest ih =>
      obtain ⟨idle, unfiled⟩ := others step List.mem_cons_self
      exact .other step rest idle unfiled (ih fun later member => others later (List.mem_cons_of_mem step member))

theorem classified (event : Event K) : Paired (event.baseSteps ++ event.querySteps) := by
  apply of_others
  intro step member
  rcases classified_step event step member with ⟨counter, rfl⟩ | ⟨bucket, key, rfl⟩ | ⟨flag, rfl⟩ <;>
    exact ⟨rfl, rfl⟩

theorem call (call : Call K) : Paired call.steps := by
  cases call with
  | event event =>
      have ordered : Paired event.historySteps := by
        unfold Event.historySteps
        split
        · exact .pair event [] .nil
        · exact .nil
      have rest := ordered.append (classified event)
      rw [← List.append_assoc] at rest
      exact .other _ _ rfl rfl (.other _ _ rfl rfl rest)
  | _ => exact of_others _ (by simp [Call.steps, Step.draws, Step.filed?])

theorem calls (calls : List (Call K)) : Paired (calls.flatMap Call.steps) := by
  induction calls with
  | nil => exact .nil
  | cons first rest ih => exact (call first).append ih

end Paired

theorem call_files (call : Call K) : call.steps.filterMap Step.filed? = Call.keyed [call] := by
  cases call with
  | event event =>
      have classified : (event.baseSteps ++ event.querySteps).filterMap Step.filed? = [] :=
        List.filterMap_eq_nil_iff.mpr (classified_unfiled event)
      have opening : (Call.event event).steps.filterMap Step.filed? =
          (event.historySteps ++ (event.baseSteps ++ event.querySteps)).filterMap Step.filed? := by
        rw [Call.steps, List.append_assoc]
        rfl
      rw [opening, List.filterMap_append, classified, List.append_nil, Call.keyed_event,
        Event.historySteps]
      split <;> rfl
  | _ => rfl

theorem calls_file (calls : List (Call K)) :
    (calls.flatMap Call.steps).filterMap Step.filed? = Call.keyed calls := by
  induction calls with
  | nil => rfl
  | cons call rest ih =>
      rw [List.flatMap_cons, List.filterMap_append, call_files, ih, ← Call.keyed_append]
      rfl

namespace Worker

/-- The entry that a worker has drawn a ticket for and not yet made. -/
def held? (worker : Worker K) : Option (UInt64 × Event K) :=
  match worker.todo with
  | .file event :: _ => some (worker.hand, event)
  | _ => none

/-- What a worker has to do beyond the entry that it holds. -/
def unheld (worker : Worker K) : List (Step K) :=
  match worker.todo with
  | .file _ :: rest => rest
  | todo => todo

/-- The events that a worker has still to draw tickets for. -/
def undrawn (worker : Worker K) : List (Event K) := worker.unheld.filterMap Step.filed?

theorem undrawn_draw (event : Event K) (rest : List (Step K)) (hand ticket : UInt64) (sheet : Stats) :
    (Worker.mk (.draw :: .file event :: rest) hand sheet).undrawn =
      event :: (Worker.mk (.file event :: rest) ticket sheet).undrawn := rfl

theorem paired_held (todo : List (Step K)) (hand : UInt64) (sheet : Stats) (paired : Paired todo) :
    (Worker.mk todo hand sheet).held? = none := by
  cases paired with
  | other step rest idle unfiled later => cases step <;> first | rfl | simp [Step.filed?] at unfiled
  | _ => rfl

theorem paired_unheld (todo : List (Step K)) (hand : UInt64) (sheet : Stats) (paired : Paired todo) :
    (Worker.mk todo hand sheet).unheld = todo := by
  cases paired with
  | other step rest idle unfiled later => cases step <;> first | rfl | simp [Step.filed?] at unfiled
  | _ => rfl

theorem ofCalls_undrawn (calls : List (Call K)) : (ofCalls calls).undrawn = Call.keyed calls := by
  rw [undrawn, ofCalls, ofSteps, paired_unheld _ _ _ (Paired.calls calls), calls_file]

/-- A worker files what it holds, or draws a ticket for what it files next, or does neither. -/
theorem step_cases (step : Step K) (rest : List (Step K)) (hand : UInt64) (sheet : Stats)
    (paired : Paired (Worker.mk (step :: rest) hand sheet).unheld) :
    (∃ event, step = .file event ∧ Paired rest) ∨
      (∃ event later, step = .draw ∧ rest = .file event :: later ∧ Paired later) ∨
      (step.draws = 0 ∧ step.filed? = none ∧ Paired rest) := by
  by_cases filing : ∃ event, step = .file event
  · obtain ⟨event, rfl⟩ := filing
    exact .inl ⟨event, rfl, paired⟩
  · have whole : (Worker.mk (step :: rest) hand sheet).unheld = step :: rest := by
      cases step <;> first | rfl | exact absurd ⟨_, rfl⟩ filing
    rw [whole] at paired
    right
    cases paired with
    | pair event later paired => exact .inl ⟨event, later, rfl, rfl, paired⟩
    | other _ _ idle unfiled paired => exact .inr ⟨idle, unfiled, paired⟩

end Worker

namespace Floor

def held (floor : Floor K) : List (UInt64 × Event K) := floor.workers.filterMap Worker.held?

/-- The events that one worker has still to draw tickets for. -/
def undrawn (floor : Floor K) (turn : Nat) : List (Event K) :=
  match floor.workers[turn]? with
  | some worker => worker.undrawn
  | none => []

/-- Who has drawn which ticket for which event, in the order of the tickets. -/
structure Ledger (start floor : Floor K) (drawn : List (Nat × Event K)) : Prop where
  next : floor.recorder.nextTicket = UInt64.ofNat drawn.length
  entries : (floor.recorder.history ++ floor.held).Perm (Recorder.numbered (drawn.map (·.2)))
  falling : Recorder.Descending floor.recorder.history
  orderly : ∀ worker ∈ floor.workers, Paired worker.unheld
  shares : ∀ turn, (drawn.filter fun entry => entry.1 = turn).map (·.2) ++ floor.undrawn turn =
    start.undrawn turn
  whole : (drawn.map (·.2) ++ floor.workers.flatMap Worker.undrawn).Perm
    (start.workers.flatMap Worker.undrawn)

theorem undrawn_other (recorder later : Recorder K) (before after : List (Worker K))
    (worker moved : Worker K) (journal more : List (Nat × Notice)) (turn : Nat)
    (other : turn ≠ before.length) :
    (Floor.mk later (before ++ moved :: after) more).undrawn turn =
      (Floor.mk recorder (before ++ worker :: after) journal).undrawn turn := by
  simp only [undrawn, moved_other worker moved other]

theorem undrawn_here (recorder : Recorder K) (before after : List (Worker K)) (worker : Worker K)
    (journal : List (Nat × Notice)) :
    (Floor.mk recorder (before ++ worker :: after) journal).undrawn before.length = worker.undrawn := by
  simp [undrawn]

namespace Ledger

variable {start floor : Floor K} {drawn : List (Nat × Event K)}

-- No more tickets are drawn than there are events to draw them for.
theorem bounded (ledger : Ledger start floor drawn) :
    drawn.length ≤ (start.workers.flatMap Worker.undrawn).length := by
  have lengths := ledger.whole.length_eq
  rw [List.length_append, List.length_map] at lengths
  omega

theorem next_toNat (ledger : Ledger start floor drawn) (few : drawn.length < 2 ^ 64) :
    floor.recorder.nextTicket.toNat = drawn.length := by
  rw [ledger.next, UInt64.toNat_ofNat', Nat.mod_eq_of_lt few]

theorem tickets_nodup (ledger : Ledger start floor drawn) (few : drawn.length ≤ 2 ^ 64) :
    ((floor.recorder.history ++ floor.held).map (·.1)).Nodup := by
  refine (ledger.entries.map (·.1)).nodup_iff.mpr ?_
  exact Recorder.ascending_nodup _ (Recorder.numbered_ascending _ (by simpa using few))

section Settled

variable (ledger : Ledger start floor drawn) (few : drawn.length < 2 ^ 64) (settled : floor.held = [])

include ledger few settled

-- Once nothing is held, the history is the ledger without the names.
theorem settled_history :
    floor.recorder.history = (Recorder.numbered (drawn.map (·.2))).reverse := by
  have entries := ledger.entries
  rw [settled, List.append_nil] at entries
  exact Recorder.descending_eq_reverse _ _ entries ledger.falling
    (Recorder.numbered_ascending _ (by rw [List.length_map]; exact Nat.le_of_lt few))

theorem settled_events : floor.recorder.events = drawn.map (·.2) := by
  have rising := Recorder.numbered_ascending (drawn.map (·.2))
    (by rw [List.length_map]; exact Nat.le_of_lt few)
  rw [Recorder.events, ledger.settled_history few settled,
    Recorder.inOrder_perm _ _ (List.reverse_perm _) rising, Recorder.numbered_events]

end Settled

-- A turn that draws no ticket leaves all shares as they are.
theorem still {recorder later : Recorder K} {before after : List (Worker K)}
    {worker moved : Worker K} {journal : List (Nat × Notice)} (more : List (Nat × Notice))
    (ledger : Ledger start ⟨recorder, before ++ worker :: after, journal⟩ drawn)
    (same : moved.undrawn = worker.undrawn) (paired : Paired moved.unheld)
    (next : later.nextTicket = recorder.nextTicket)
    (entries : (later.history ++ (Floor.mk later (before ++ moved :: after) more).held).Perm
      (recorder.history ++ (Floor.mk recorder (before ++ worker :: after) journal).held))
    (falling : Recorder.Descending later.history) :
    Ledger start ⟨later, before ++ moved :: after, more⟩ drawn := by
  refine ⟨next.trans ledger.next, entries.trans ledger.entries, falling,
    moved_workers ledger.orderly paired, ?_, ?_⟩
  · intro turn
    rw [← ledger.shares turn]
    by_cases here : turn = before.length
    · subst turn
      rw [undrawn_here, undrawn_here, same]
    · rw [undrawn_other recorder later before after worker moved journal more turn here]
  · have whole := ledger.whole
    simp only [List.flatMap_append, List.flatMap_cons, same] at whole ⊢
    exact whole

section Turns

variable {recorder : Recorder K} {before after : List (Worker K)} {journal : List (Nat × Notice)}
  {rest : List (Step K)} {hand : UInt64} {sheet : Stats}

theorem held_here (worker : Worker K) :
    (Floor.mk recorder (before ++ worker :: after) journal).held =
      before.filterMap Worker.held? ++ worker.held?.toList ++ after.filterMap Worker.held? := by
  cases inHand : worker.held? <;> simp [held, inHand]

/-- The ticket that an event is filed under is not in the history. -/
theorem fresh (event : Event K) (few : drawn.length ≤ 2 ^ 64)
    (ledger : Ledger start
      ⟨recorder, before ++ ⟨.file event :: rest, hand, sheet⟩ :: after, journal⟩ drawn) :
    ∀ entry ∈ recorder.history, entry.1 ≠ hand := by
  intro entry filed same
  have apart := ledger.tickets_nodup few
  rw [held_here, List.map_append, List.nodup_append] at apart
  exact apart.2.2 entry.1 (List.mem_map_of_mem filed) hand (by simp [Worker.held?]) same

theorem file_step [DecidableEq K] (event : Event K) (paired : Paired rest) (more : List (Nat × Notice))
    (few : drawn.length ≤ 2 ^ 64)
    (ledger : Ledger start
      ⟨recorder, before ++ ⟨.file event :: rest, hand, sheet⟩ :: after, journal⟩ drawn) :
    Ledger start
      ⟨Step.perform hand recorder (.file event), before ++ ⟨rest, hand, sheet⟩ :: after, more⟩ drawn := by
  have fresh := ledger.fresh event few
  have filed := Recorder.file_perm hand event recorder.history fresh
  refine ledger.still more ?_ ?_ rfl ?_ ?_
  · simp only [Worker.undrawn, Worker.paired_unheld rest hand sheet paired]
    rfl
  · rw [Worker.paired_unheld rest hand sheet paired]
    exact paired
  -- The entry goes from the hand into the history: the two together are what they were.
  · rw [held_here, held_here, Worker.paired_held rest hand sheet paired]
    simp only [Worker.held?, Option.toList_none, Option.toList_some, List.append_nil, List.append_assoc,
      List.singleton_append]
    refine (filed.append_right _).trans ?_
    rw [← List.append_assoc, ← List.append_assoc]
    exact List.perm_middle.symm
  · exact Recorder.file_descending hand event recorder.history fresh ledger.falling

theorem draw_step [DecidableEq K] (event : Event K) (paired : Paired rest) (more : List (Nat × Notice))
    (ledger : Ledger start
      ⟨recorder, before ++ ⟨.draw :: .file event :: rest, hand, sheet⟩ :: after, journal⟩ drawn) :
    Ledger start
      ⟨Step.perform hand recorder .draw,
        before ++ ⟨.file event :: rest, recorder.nextTicket, sheet⟩ :: after, more⟩
      (drawn ++ [(before.length, event)]) := by
  refine ⟨?_, ?_, ledger.falling, moved_workers ledger.orderly paired, ?_, ?_⟩
  · rw [List.length_append, UInt64.ofNat_add, ← ledger.next]
    rfl
  -- The ticket is the length of the ledger, so the new entry is the last of the numbering.
  · have entries := ledger.entries
    rw [held_here] at entries ⊢
    rw [List.map_append, List.map_singleton, Recorder.numbered_concat, List.length_map, ← ledger.next]
    simp only [Worker.held?, Option.toList_none, Option.toList_some, List.append_nil, List.append_assoc,
      List.singleton_append] at entries ⊢
    rw [← List.append_assoc] at entries ⊢
    exact (List.perm_middle.trans (entries.cons _)).trans (List.perm_append_singleton _ _).symm
  · intro turn
    have share := ledger.shares turn
    by_cases here : turn = before.length
    · subst turn
      rw [undrawn_here] at share ⊢
      rw [← share, Worker.undrawn_draw event rest hand recorder.nextTicket sheet]
      simp [List.filter_append]
    · rw [undrawn_other recorder _ before after ⟨.draw :: .file event :: rest, hand, sheet⟩ _ journal
        more turn here, ← share]
      simp [List.filter_append, Ne.symm here]
  · refine List.Perm.trans ?_ ledger.whole
    simp only [List.flatMap_append, List.flatMap_cons, List.map_append, List.map_singleton,
      List.append_assoc, Worker.undrawn_draw event rest hand recorder.nextTicket sheet,
      List.nil_append, List.cons_append]
    exact List.Perm.append_left _ List.perm_middle.symm

theorem other_step [DecidableEq K] (step : Step K) (idle : step.draws = 0) (unfiled : step.filed? = none)
    (paired : Paired rest) (fetched : UInt64) (copied : Stats) (more : List (Nat × Notice))
    (ledger : Ledger start
      ⟨recorder, before ++ ⟨step :: rest, hand, sheet⟩ :: after, journal⟩ drawn) :
    Ledger start ⟨step.perform hand recorder, before ++ ⟨rest, fetched, copied⟩ :: after, more⟩ drawn := by
  have whole : Paired (step :: rest) := .other step rest idle unfiled paired
  have kept : (step.perform hand recorder).history = recorder.history := by
    rw [history_perform]
    cases step <;> first | rfl | simp [Step.filed?] at unfiled
  refine ledger.still more ?_ ?_ ?_ ?_ ?_
  · simp only [Worker.undrawn, Worker.paired_unheld _ _ _ paired, Worker.paired_unheld _ _ _ whole,
      List.filterMap_cons, unfiled]
  · rw [Worker.paired_unheld _ _ _ paired]
    exact paired
  · rw [ticket_perform, idle]
    exact UInt64.add_zero _
  · rw [held_here, held_here, Worker.paired_held _ _ _ paired, Worker.paired_held _ _ _ whole, kept]
  · rw [kept]
    exact ledger.falling

end Turns

variable [DecidableEq K] [Outlined K]

theorem turn (few : (start.workers.flatMap Worker.undrawn).length ≤ 2 ^ 64) {now : Nat}
    {steps : List (Step K)} {later : Floor K} (ledger : Ledger start floor drawn)
    (move : Turn now floor steps later) : ∃ all, Ledger start later all := by
  cases move with
  | pass => exact ⟨drawn, ledger⟩
  | move recorder before after journal step rest hand sheet =>
      have orderly := ledger.orderly ⟨step :: rest, hand, sheet⟩ (by simp)
      rcases Worker.step_cases step rest hand sheet orderly with
        ⟨event, rfl, paired⟩ | ⟨event, behind, rfl, rfl, paired⟩ | ⟨idle, unfiled, paired⟩
      · exact ⟨drawn, ledger.file_step event paired _ (Nat.le_trans ledger.bounded few)⟩
      · exact ⟨_, ledger.draw_step event paired _⟩
      · exact ⟨drawn, ledger.other_step step idle unfiled paired _ _ _⟩

-- A turn adds to the history what it files and takes no entry away.
theorem filed (few : (start.workers.flatMap Worker.undrawn).length ≤ 2 ^ 64) {now : Nat}
    {steps : List (Step K)} {later : Floor K} (ledger : Ledger start floor drawn)
    (move : Turn now floor steps later) :
    (later.recorder.history.map (·.2)).Perm
      (steps.filterMap Step.filed? ++ floor.recorder.history.map (·.2)) := by
  cases move with
  | pass => exact List.Perm.refl _
  | move recorder before after journal step rest hand sheet =>
      rw [history_perform]
      cases step with
      | file event =>
          have fresh := ledger.fresh event (Nat.le_trans ledger.bounded few)
          exact (Recorder.file_perm hand event recorder.history fresh).map (·.2)
      | _ => exact List.Perm.refl _

end Ledger

theorem done_held (floor : Floor K) (done : floor.isDone = true) : floor.held = [] := by
  apply List.filterMap_eq_nil_iff.mpr
  intro worker member
  have idle := List.isEmpty_iff.mp (List.all_eq_true.mp done worker member)
  simp [Worker.held?, idle]

theorem done_undrawn (floor : Floor K) (done : floor.isDone = true) (turn : Nat) :
    floor.undrawn turn = [] := by
  unfold undrawn
  cases found : floor.workers[turn]? with
  | none => rfl
  | some worker =>
      have idle := List.isEmpty_iff.mp
        (List.all_eq_true.mp done worker (List.mem_of_getElem? found))
      simp [Worker.undrawn, Worker.unheld, idle]

section Threads

variable (name : String) (user : Option String) (patience : Patience) (threads : List (List (Call K)))

theorem ofThreads_undrawn (turn : Nat) :
    (ofThreads name user patience threads).undrawn turn = Call.keyed (threads.getD turn []) := by
  simp only [undrawn, ofThreads, start, List.getElem?_map, List.getD_eq_getElem?_getD]
  cases found : threads[turn]? with
  | none => rfl
  | some calls => exact Worker.ofCalls_undrawn calls

theorem ofThreads_whole :
    (ofThreads name user patience threads).workers.flatMap Worker.undrawn =
      Call.keyed threads.flatten := by
  induction threads with
  | nil => rfl
  | cons calls rest ih =>
      simp only [ofThreads, start, List.map_cons, List.flatMap_cons, Worker.ofCalls_undrawn,
        List.flatten_cons, Call.keyed_append] at ih ⊢
      rw [ih]

theorem ofThreads_ledger :
    Ledger (ofThreads name user patience threads) (ofThreads name user patience threads) [] := by
  have empty : (ofThreads name user patience threads).held = [] := by
    apply List.filterMap_eq_nil_iff.mpr
    intro worker member
    obtain ⟨calls, _, rfl⟩ := List.mem_map.mp member
    exact Worker.paired_held _ _ _ (Paired.calls calls)
  refine ⟨rfl, ?_, List.Pairwise.nil, ?_, ?_, ?_⟩
  · rw [empty]
    exact List.Perm.refl _
  · intro worker member
    obtain ⟨calls, _, rfl⟩ := List.mem_map.mp member
    rw [Worker.ofCalls, Worker.ofSteps, Worker.paired_unheld _ _ _ (Paired.calls calls)]
    exact Paired.calls calls
  · intro turn
    rfl
  · exact List.Perm.refl _

end Threads

section Runs

variable [DecidableEq K] [Outlined K]

/-- A ledger that is kept from the start is kept for good, and the history holds what was filed. -/
theorem run_ledger (start : Floor K) (few : (start.workers.flatMap Worker.undrawn).length ≤ 2 ^ 64)
    (opening : Ledger start start []) (empty : start.recorder.history = []) (schedule : List Nat) :
    (∃ drawn, Ledger start (start.run schedule) drawn) ∧
      ((start.run schedule).recorder.history.map (·.2)).Perm
        ((start.made schedule).filterMap Step.filed?) := by
  apply run_turns (motive := fun done floor => (∃ drawn, Ledger start floor drawn) ∧
    (floor.recorder.history.map (·.2)).Perm (done.filterMap Step.filed?))
  · exact ⟨⟨[], opening⟩, by rw [empty]; exact List.Perm.refl _⟩
  · rintro done before now steps after ⟨⟨drawn, ledger⟩, filed⟩ move
    refine ⟨ledger.turn few move, ?_⟩
    rw [List.filterMap_append]
    refine (ledger.filed few move).trans ?_
    exact (filed.append_left _).trans List.perm_append_comm

variable (name : String) (user : Option String) (patience : Patience) (threads : List (List (Call K)))

variable (few : threads.flatten.length < 2 ^ 64) (schedule : List Nat)

include few

-- There is a ledger at every moment, and tickets for all events.
theorem threads_ledger : ∃ drawn, drawn.length < 2 ^ 64 ∧
    Ledger (ofThreads name user patience threads)
      ((ofThreads name user patience threads).run schedule) drawn := by
  have fewer := Call.keyed_length threads.flatten
  have whole := ofThreads_whole name user patience threads
  obtain ⟨⟨drawn, ledger⟩, _⟩ := run_ledger (ofThreads name user patience threads)
    (by rw [whole]; omega) (ofThreads_ledger name user patience threads) rfl schedule
  have bounded := ledger.bounded
  rw [whole] at bounded
  exact ⟨drawn, by omega, ledger⟩

theorem threads_filed :
    (((ofThreads name user patience threads).run schedule).recorder.history.map (·.2)).Perm
      (((ofThreads name user patience threads).made schedule).filterMap Step.filed?) := by
  have fewer := Call.keyed_length threads.flatten
  have whole := ofThreads_whole name user patience threads
  exact (run_ledger _ (by rw [whole]; omega) (ofThreads_ledger name user patience threads) rfl
    schedule).2

end Runs

end Floor

end QueryRecorder
