import QueryRecorder.Json.Layout

/-!
The figures of a recorder: twelve counters of 64 bits, which wrap, and three flags. The same record
serves as the live figures and as the copy of them that `ListenerStats` is; `stats` makes the copy by one
reading for each figure, in the order of `Reading.all`.
-/

namespace QueryRecorder

inductive Counter
  | total
  | creates
  | updates
  | deletes
  | invalidates
  | errors
  | queryInserts
  | queryUpdates
  | queryDeletes
  | queryInvalidates
  | connects
  | disconnects
  deriving DecidableEq

inductive Flag
  | closed
  | regionCleared
  | regionInvalidated
  deriving DecidableEq

namespace Counter

def all : List Counter :=
  [total, creates, updates, deletes, invalidates, errors, queryInserts, queryUpdates, queryDeletes,
    queryInvalidates, connects, disconnects]

def name : Counter → String
  | total => "total"
  | creates => "creates"
  | updates => "updates"
  | deletes => "deletes"
  | invalidates => "invalidates"
  | errors => "errors"
  | queryInserts => "query_inserts"
  | queryUpdates => "query_updates"
  | queryDeletes => "query_deletes"
  | queryInvalidates => "query_invalidates"
  | connects => "cqs_connected"
  | disconnects => "cqs_disconnected"

theorem mem_all (counter : Counter) : counter ∈ all := by
  cases counter <;> decide

end Counter

namespace Flag

def all : List Flag := [closed, regionCleared, regionInvalidated]

def name : Flag → String
  | closed => "closed"
  | regionCleared => "region_cleared"
  | regionInvalidated => "region_invalidated"

theorem mem_all (flag : Flag) : flag ∈ all := by
  cases flag <;> decide

end Flag

structure Stats where
  total : UInt64
  creates : UInt64
  updates : UInt64
  deletes : UInt64
  invalidates : UInt64
  errors : UInt64
  queryInserts : UInt64
  queryUpdates : UInt64
  queryDeletes : UInt64
  queryInvalidates : UInt64
  connects : UInt64
  disconnects : UInt64
  closed : Bool
  regionCleared : Bool
  regionInvalidated : Bool
  deriving DecidableEq

namespace Stats

def zero : Stats := ⟨0, 0, 0, 0, 0, 0, 0, 0, 0, 0, 0, 0, false, false, false⟩

def count (stats : Stats) : Counter → UInt64
  | .total => stats.total
  | .creates => stats.creates
  | .updates => stats.updates
  | .deletes => stats.deletes
  | .invalidates => stats.invalidates
  | .errors => stats.errors
  | .queryInserts => stats.queryInserts
  | .queryUpdates => stats.queryUpdates
  | .queryDeletes => stats.queryDeletes
  | .queryInvalidates => stats.queryInvalidates
  | .connects => stats.connects
  | .disconnects => stats.disconnects

def setCount (stats : Stats) (counter : Counter) (n : UInt64) : Stats :=
  match counter with
  | .total => { stats with total := n }
  | .creates => { stats with creates := n }
  | .updates => { stats with updates := n }
  | .deletes => { stats with deletes := n }
  | .invalidates => { stats with invalidates := n }
  | .errors => { stats with errors := n }
  | .queryInserts => { stats with queryInserts := n }
  | .queryUpdates => { stats with queryUpdates := n }
  | .queryDeletes => { stats with queryDeletes := n }
  | .queryInvalidates => { stats with queryInvalidates := n }
  | .connects => { stats with connects := n }
  | .disconnects => { stats with disconnects := n }

def flag (stats : Stats) : Flag → Bool
  | .closed => stats.closed
  | .regionCleared => stats.regionCleared
  | .regionInvalidated => stats.regionInvalidated

def setFlag (stats : Stats) (flag : Flag) (value : Bool) : Stats :=
  match flag with
  | .closed => { stats with closed := value }
  | .regionCleared => { stats with regionCleared := value }
  | .regionInvalidated => { stats with regionInvalidated := value }

def bump (stats : Stats) (counter : Counter) : Stats :=
  stats.setCount counter (stats.count counter + 1)

theorem count_setCount (stats : Stats) (counter other : Counter) (n : UInt64) :
    (stats.setCount counter n).count other = if other = counter then n else stats.count other := by
  cases counter <;> cases other <;> rfl

theorem flag_setCount (stats : Stats) (counter : Counter) (n : UInt64) (flag : Flag) :
    (stats.setCount counter n).flag flag = stats.flag flag := by
  cases counter <;> cases flag <;> rfl

theorem count_setFlag (stats : Stats) (flag : Flag) (value : Bool) (counter : Counter) :
    (stats.setFlag flag value).count counter = stats.count counter := by
  cases flag <;> cases counter <;> rfl

theorem flag_setFlag (stats : Stats) (flag other : Flag) (value : Bool) :
    (stats.setFlag flag value).flag other = if other = flag then value else stats.flag other := by
  cases flag <;> cases other <;> rfl

def layout : Layout Stats where
  name := "ListenerStats"
  blank := zero
  fields :=
    Counter.all.map (fun counter =>
      .mandatory counter.name (fun stats => stats.count counter)
        fun n stats => stats.setCount counter n) ++
    Flag.all.map fun flag =>
      .mandatory flag.name (fun stats => stats.flag flag)
        fun value stats => stats.setFlag flag value

instance : JsonForm Stats := ⟨layout.write, layout.read⟩

instance : Outlined Stats := ⟨layout.outlineOf⟩

end Stats

inductive Reading
  | counter (counter : Counter)
  | flag (flag : Flag)
  deriving DecidableEq

namespace Reading

def all : List Reading := Counter.all.map counter ++ Flag.all.map flag

def copy (live sheet : Stats) : Reading → Stats
  | counter c => sheet.setCount c (live.count c)
  | flag f => sheet.setFlag f (live.flag f)

end Reading

end QueryRecorder
