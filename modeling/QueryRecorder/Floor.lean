import QueryRecorder.Call

/-!
Several workers that carry out calls on one recorder at the same time, as threads that share a
`CqTestListener` do. A schedule says whose turn it is; at each turn that worker makes its next step, and
a worker with nothing left to do lets its turn pass.
-/

namespace QueryRecorder

structure Worker (K : Type) where
  todo : List (Step K)
  hand : UInt64
  sheet : Stats

namespace Worker

variable {K : Type}

def ofSteps (steps : List (Step K)) : Worker K := ⟨steps, 0, .zero⟩

def ofCalls (calls : List (Call K)) : Worker K := ofSteps (calls.flatMap Call.steps)

end Worker

structure Floor (K : Type) where
  recorder : Recorder K
  workers : List (Worker K)
  /-- What was logged and by which worker, the latest first. -/
  journal : List (Nat × Notice)

namespace Floor

variable {K : Type}

def start (recorder : Recorder K) (workers : List (Worker K)) : Floor K := ⟨recorder, workers, []⟩

def isDone (floor : Floor K) : Bool := floor.workers.all fun worker => worker.todo.isEmpty

/-- Enough turns in rotation for every worker to finish. -/
def rotation (floor : Floor K) : List Nat :=
  let longest := (floor.workers.map fun worker => worker.todo.length).foldl max 0
  (List.replicate longest (List.range floor.workers.length)).flatten

variable [DecidableEq K] [Outlined K]

def act (floor : Floor K) (turn : Nat) (worker : Worker K) (step : Step K) (rest : List (Step K)) :
    Floor K where
  recorder := step.perform worker.hand floor.recorder
  workers := floor.workers.set turn
    ⟨rest, step.fetch worker.hand floor.recorder, step.transcribe worker.sheet floor.recorder⟩
  journal :=
    ((step.notice? worker.hand floor.recorder).toList.map fun notice => (turn, notice)) ++
      floor.journal

def advance (floor : Floor K) (turn : Nat) : Floor K :=
  match floor.workers[turn]? with
  | some worker =>
      match worker.todo with
      | step :: rest => floor.act turn worker step rest
      | [] => floor
  | none => floor

def run (floor : Floor K) (schedule : List Nat) : Floor K := schedule.foldl advance floor

/-- All workers take turns until everything is done. -/
def finish (floor : Floor K) : Floor K := floor.run floor.rotation

end Floor

end QueryRecorder
