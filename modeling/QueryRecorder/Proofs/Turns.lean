import QueryRecorder.Floor
import QueryRecorder.Proofs.Course

/-!
Turns on a floor. `Turn` says all that one turn can do: nothing, or one step of one worker. A law of
whole runs is then one case for each. The steps that a run has made and those that its workers still
have in front of them are together the steps of their calls, at every moment.
-/

namespace QueryRecorder

variable {K : Type}

namespace Floor

/-- What one turn of the given worker does: the floors before and after it and the steps made. -/
inductive Turn [DecidableEq K] [Outlined K] : Nat → Floor K → List (Step K) → Floor K → Prop
  | pass (turn : Nat) (floor : Floor K) : Turn turn floor [] floor
  | move (recorder : Recorder K) (before after : List (Worker K)) (journal : List (Nat × Notice))
      (step : Step K) (rest : List (Step K)) (hand : UInt64) (sheet : Stats) :
      Turn before.length ⟨recorder, before ++ ⟨step :: rest, hand, sheet⟩ :: after, journal⟩ [step]
        ⟨step.perform hand recorder,
          before ++ ⟨rest, step.fetch hand recorder, step.transcribe sheet recorder⟩ :: after,
          (step.notice? hand recorder).toList.map (fun notice => (before.length, notice)) ++ journal⟩

/-- The step that a worker has in front of it, if there is one. -/
def ahead (floor : Floor K) (turn : Nat) : List (Step K) :=
  (floor.workers[turn]?.bind fun worker => worker.todo.head?).toList

def pending (floor : Floor K) : List (Step K) := floor.workers.flatMap (·.todo)

theorem moved_workers {holds : Worker K → Prop} {before after : List (Worker K)}
    {worker moved : Worker K} (each : ∀ found ∈ before ++ worker :: after, holds found)
    (here : holds moved) : ∀ found ∈ before ++ moved :: after, holds found := by
  intro found member
  rcases List.mem_append.mp member with early | late
  · exact each found (by simp [early])
  · rcases List.mem_cons.mp late with rfl | later
    · exact here
    · exact each found (by simp [later])

theorem moved_other {before after : List (Worker K)} (worker moved : Worker K) {turn : Nat}
    (other : turn ≠ before.length) :
    (before ++ moved :: after)[turn]? = (before ++ worker :: after)[turn]? := by
  rcases Nat.lt_or_gt_of_ne other with early | late
  · rw [List.getElem?_append_left early, List.getElem?_append_left early]
  · obtain ⟨gap, rfl⟩ := Nat.exists_eq_add_of_lt late
    rw [List.getElem?_append_right (by omega), List.getElem?_append_right (by omega)]
    have beyond : before.length + gap + 1 - before.length = gap + 1 := by omega
    rw [beyond, List.getElem?_cons_succ, List.getElem?_cons_succ]

variable [DecidableEq K] [Outlined K]

def made (floor : Floor K) : List Nat → List (Step K)
  | [] => []
  | turn :: rest => floor.ahead turn ++ (floor.advance turn).made rest

theorem advance_turn (floor : Floor K) (turn : Nat) :
    Turn turn floor (floor.ahead turn) (floor.advance turn) := by
  obtain ⟨recorder, workers, journal⟩ := floor
  -- Turns of nobody and of a worker that has finished pass; all others make the next step.
  cases found : workers[turn]? with
  | none =>
      have still : (Floor.mk recorder workers journal).advance turn = ⟨recorder, workers, journal⟩ := by
        simp [advance, found]
      rw [still]
      simp only [ahead, found]
      exact .pass turn _
  | some worker =>
      obtain ⟨inside, here⟩ := List.getElem?_eq_some_iff.mp found
      obtain ⟨before, after, split, same, _⟩ := @List.exists_of_set _ turn worker workers inside
      rw [here] at split
      subst split same
      obtain ⟨todo, hand, sheet⟩ := worker
      cases todo with
      | nil =>
          have still : (Floor.mk recorder (before ++ ⟨[], hand, sheet⟩ :: after) journal).advance
              before.length = ⟨recorder, before ++ ⟨[], hand, sheet⟩ :: after, journal⟩ := by
            simp [advance]
          rw [still]
          simp only [ahead, found]
          exact .pass _ _
      | cons step rest =>
          have moved := Turn.move recorder before after journal step rest hand sheet
          simpa [advance, act, ahead] using moved

theorem run_append (floor : Floor K) (schedule more : List Nat) :
    floor.run (schedule ++ more) = (floor.run schedule).run more := by
  simp [run]

theorem made_append (floor : Floor K) (schedule more : List Nat) :
    floor.made (schedule ++ more) = floor.made schedule ++ (floor.run schedule).made more := by
  induction schedule generalizing floor with
  | nil => rfl
  | cons turn rest ih =>
      simp only [List.cons_append, made, ih, List.append_assoc]
      rfl

/-- What holds at the start and is kept by every turn holds after every run. -/
theorem run_turns {motive : List (Step K) → Floor K → Prop} (floor : Floor K)
    (opening : motive [] floor)
    (keeps : ∀ done before turn steps after, motive done before → Turn turn before steps after →
      motive (done ++ steps) after)
    (schedule : List Nat) : motive (floor.made schedule) (floor.run schedule) := by
  -- From the end of the schedule: its last turn is taken on the floor that the others left.
  induction schedule using List.reverseRecOn with
  | nil => exact opening
  | append_singleton schedule turn ih =>
      rw [made_append, run_append]
      simp only [made, List.append_nil]
      exact keeps _ _ turn _ _ ih (advance_turn _ turn)

-- A run loses no step and adds none.
theorem run_pending (floor : Floor K) (schedule : List Nat) :
    (floor.made schedule ++ (floor.run schedule).pending).Perm floor.pending := by
  apply run_turns (motive := fun done floor' => (done ++ floor'.pending).Perm floor.pending)
  · exact List.Perm.refl _
  · intro done before turn steps after same move
    cases move with
    | pass => simpa using same
    | move recorder front back journal step rest hand sheet =>
        refine List.Perm.trans ?_ same
        simp only [pending, List.flatMap_append, List.flatMap_cons, List.append_assoc, List.cons_append,
          List.nil_append]
        refine List.Perm.append_left done ?_
        exact List.perm_middle.symm

-- A step that is made was in front of a worker.
theorem mem_made (floor : Floor K) (schedule : List Nat) (step : Step K)
    (member : step ∈ floor.made schedule) : step ∈ floor.pending :=
  (floor.run_pending schedule).subset (List.mem_append_left _ member)

theorem run_course (floor : Floor K) (schedule : List Nat) :
    Course floor.recorder (floor.made schedule) (floor.run schedule).recorder := by
  apply run_turns (motive := fun done floor' => Course floor.recorder done floor'.recorder)
  · exact .rest _
  · intro done before turn steps after course move
    cases move with
    | pass => simpa using course
    | move recorder front back journal step rest hand sheet =>
        exact course.append (.step hand step (.rest _))

end Floor

/-- What the steps claim and do not cover first: it has to be covered before they begin. -/
def owed (claim cover : Step K → Nat) (steps : List (Step K)) : Nat :=
  steps.foldr (fun step debt => debt + claim step - cover step) 0

section Owed

variable (claim cover : Step K → Nat)

theorem owed_append (steps more : List (Step K)) (paid : owed claim cover more = 0) :
    owed claim cover (steps ++ more) = owed claim cover steps := by
  rw [owed, List.foldr_append]
  exact congrArg (fun debt => steps.foldr _ debt) paid

theorem owed_calls (paid : ∀ call : Call K, owed claim cover call.steps = 0) (calls : List (Call K)) :
    owed claim cover (calls.flatMap Call.steps) = 0 := by
  induction calls with
  | nil => rfl
  | cons call rest ih => rw [List.flatMap_cons, owed_append _ _ _ _ ih, paid]

theorem owed_le_amount (steps : List (Step K)) : owed claim cover steps ≤ amount claim steps := by
  induction steps with
  | nil => exact Nat.le_refl 0
  | cons step rest ih =>
      rw [amount_cons]
      simp only [owed, List.foldr_cons] at ih ⊢
      omega

/-- What is owed to the workers of a floor together. -/
def Floor.owed (floor : Floor K) : Nat :=
  (floor.workers.map fun worker => QueryRecorder.owed claim cover worker.todo).sum

variable [DecidableEq K] [Outlined K]

/-- At every moment of a run all that was claimed or is still owed has been covered, if nothing was
owed at the start. -/
theorem Floor.run_owed (floor : Floor K) (schedule : List Nat) :
    amount claim (floor.made schedule) + (floor.run schedule).owed claim cover ≤
      amount cover (floor.made schedule) + floor.owed claim cover := by
  apply Floor.run_turns (motive := fun done floor' =>
    amount claim done + floor'.owed claim cover ≤ amount cover done + floor.owed claim cover)
  · exact Nat.le_refl _
  · intro done before turn steps after bound move
    cases move with
    | pass => simpa using bound
    | move recorder front back journal step rest hand sheet =>
        -- The step changes what is owed to its worker, and nothing is owed more to the others.
        have paying : QueryRecorder.owed claim cover (step :: rest) =
            QueryRecorder.owed claim cover rest + claim step - cover step := rfl
        simp only [Floor.owed, List.map_append, List.map_cons, List.sum_append, List.sum_cons,
          amount_append, amount_cons, paying] at bound ⊢
        simp only [amount, List.map_nil, List.sum_nil] at bound ⊢
        omega

end Owed

namespace Floor

/-- Threads of calls that begin on a new record. -/
def ofThreads (name : String) (user : Option String) (patience : Patience)
    (threads : List (List (Call K))) : Floor K :=
  start (.unused name user patience) (threads.map Worker.ofCalls)

section Threads

variable (name : String) (user : Option String) (patience : Patience) (threads : List (List (Call K)))

@[simp] theorem ofThreads_recorder :
    (ofThreads name user patience threads).recorder = .unused name user patience := rfl

theorem ofThreads_pending :
    (ofThreads name user patience threads).pending = threads.flatten.flatMap Call.steps := by
  simp only [ofThreads, start, pending, List.flatMap_map]
  rw [List.flatten_eq_flatMap, List.flatMap_assoc]
  rfl

theorem ofThreads_owed (claim cover : Step K → Nat)
    (paid : ∀ call : Call K, QueryRecorder.owed claim cover call.steps = 0) :
    (ofThreads name user patience threads).owed claim cover = 0 := by
  rw [owed, List.sum_eq_zero_iff_forall_eq_nat]
  intro debt member
  simp only [ofThreads, start, List.map_map, List.mem_map] at member
  obtain ⟨calls, _, rfl⟩ := member
  exact owed_calls claim cover paid calls

-- No step of a call lowers the flag of a region.
theorem ofThreads_spares :
    ∀ step ∈ (ofThreads name user patience threads).pending, step.sparesRegions = true := by
  intro step member
  rw [ofThreads_pending] at member
  obtain ⟨call, _, inCall⟩ := List.mem_flatMap.mp member
  exact call_spares_regions call step inCall

theorem run_spares [DecidableEq K] [Outlined K] (schedule : List Nat) :
    ∀ step ∈ (ofThreads name user patience threads).made schedule, step.sparesRegions = true :=
  fun step member => ofThreads_spares name user patience threads step (mem_made _ schedule step member)

end Threads

theorem done_pending (floor : Floor K) (done : floor.isDone = true) : floor.pending = [] := by
  rw [pending, List.flatMap_eq_nil_iff]
  intro worker member
  exact List.isEmpty_iff.mp (List.all_eq_true.mp done worker member)

end Floor

end QueryRecorder
