import QueryRecorder.Stats

/-!
Targets for seven of the counters: `ExpectedEvents`, its setters as one `setGoal`, its `mismatches` and
`is_met_by`. A target of zero leaves its counter unchecked; every other target is met only by exactly
that count.
-/

namespace QueryRecorder

inductive Target
  | creates
  | updates
  | deletes
  | queryInserts
  | queryUpdates
  | queryDeletes
  | total
  deriving DecidableEq

namespace Target

/-- Every target, in the order in which mismatches are reported. -/
def all : List Target :=
  [creates, updates, deletes, queryInserts, queryUpdates, queryDeletes, total]

def counter : Target → Counter
  | creates => .creates
  | updates => .updates
  | deletes => .deletes
  | queryInserts => .queryInserts
  | queryUpdates => .queryUpdates
  | queryDeletes => .queryDeletes
  | total => .total

def label : Target → String
  | creates => "creates"
  | updates => "updates"
  | deletes => "deletes"
  | queryInserts => "query inserts"
  | queryUpdates => "query updates"
  | queryDeletes => "query deletes"
  | total => "total"

def ofName? (name : String) : Option Target :=
  all.find? fun target => target.counter.name == name

theorem mem_all (target : Target) : target ∈ all := by
  cases target <;> decide

end Target

structure Expected where
  creates : UInt64
  updates : UInt64
  deletes : UInt64
  queryInserts : UInt64
  queryUpdates : UInt64
  queryDeletes : UInt64
  total : UInt64
  deriving DecidableEq

structure Mismatch where
  target : Target
  expected : UInt64
  received : UInt64
  deriving DecidableEq

def Mismatch.text (mismatch : Mismatch) : String :=
  mismatch.target.label ++ " expected: " ++ toString mismatch.expected.toNat ++
    " received: " ++ toString mismatch.received.toNat

namespace Expected

def zero : Expected := ⟨0, 0, 0, 0, 0, 0, 0⟩

def goal (expected : Expected) : Target → UInt64
  | .creates => expected.creates
  | .updates => expected.updates
  | .deletes => expected.deletes
  | .queryInserts => expected.queryInserts
  | .queryUpdates => expected.queryUpdates
  | .queryDeletes => expected.queryDeletes
  | .total => expected.total

def setGoal (expected : Expected) (target : Target) (n : UInt64) : Expected :=
  match target with
  | .creates => { expected with creates := n }
  | .updates => { expected with updates := n }
  | .deletes => { expected with deletes := n }
  | .queryInserts => { expected with queryInserts := n }
  | .queryUpdates => { expected with queryUpdates := n }
  | .queryDeletes => { expected with queryDeletes := n }
  | .total => { expected with total := n }

theorem goal_setGoal (expected : Expected) (target other : Target) (n : UInt64) :
    (expected.setGoal target n).goal other = if other = target then n else expected.goal other := by
  cases target <;> cases other <;> rfl

/-- Goals set one after another; a later goal for the same counter takes the place of an earlier. -/
def ofGoals (goals : List (Target × UInt64)) : Expected :=
  goals.foldl (fun expected goal => expected.setGoal goal.1 goal.2) zero

def mismatch? (expected : Expected) (stats : Stats) (target : Target) : Option Mismatch :=
  let goal := expected.goal target
  let received := stats.count target.counter
  if goal ≠ 0 ∧ goal ≠ received then some ⟨target, goal, received⟩ else none

def mismatches (expected : Expected) (stats : Stats) : List Mismatch :=
  Target.all.filterMap (expected.mismatch? stats)

def isMetBy (expected : Expected) (stats : Stats) : Bool :=
  Target.all.all fun target =>
    expected.goal target == 0 || expected.goal target == stats.count target.counter

def layout : Layout Expected where
  name := "ExpectedEvents"
  blank := zero
  fields := Target.all.map fun target =>
    .mandatory target.counter.name (fun expected => expected.goal target)
      fun n expected => expected.setGoal target n

instance : JsonForm Expected := ⟨layout.write, layout.read⟩

instance : Outlined Expected := ⟨layout.outlineOf⟩

end Expected

end QueryRecorder
