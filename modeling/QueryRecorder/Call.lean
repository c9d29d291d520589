import QueryRecorder.Recorder

/-!
Calls that reach a recorder: `on_event`, `on_error`, `on_cq_connected`, `on_cq_disconnected`, `close` and
`reset`. Each is split into the steps it consists of, in their order; those of `on_event` come from
`append_history`, `classify_base_operation` and `classify_query_operation`. A step is indivisible: it
reads or changes one counter, flag, set or entry. A worker that carries out steps has a hand, which holds
the count or ticket it fetched last, and a sheet for a copy of the figures.
-/

namespace QueryRecorder

inductive Call (K : Type)
  | event (event : Event K)
  | error (event : Event K)
  | connected
  | disconnected
  | close
  -- Empties the sets of keys and reopens the query; all else stays.
  | reset
  deriving DecidableEq

inductive Step (K : Type)
  -- Adds one to a counter and fetches what it was.
  | count (counter : Counter)
  -- Logs the call with the count in the hand.
  | announce (call : Call K)
  | draw
  -- Enters the event under the ticket in the hand.
  | file (event : Event K)
  | keep (bucket : Bucket) (key : K)
  | keepError (message : String)
  | clear (bucket : Bucket)
  | setFlag (flag : Flag) (value : Bool)
  | read (reading : Reading)
  deriving DecidableEq

namespace Operation

def baseCounters (operation : Operation) : List Counter :=
  if operation.isUpdate then [.updates]
  else if operation.isCreate then [.creates]
  else if operation.isDestroy then [.deletes]
  else if operation.isInvalidate then [.deletes, .invalidates]
  else []

def bucket? (operation : Operation) : Option Bucket :=
  if operation.isUpdate then some .updated
  else if operation.isCreate then some .created
  else if operation.isDestroy then some .destroyed
  else if operation.isInvalidate then some .invalidated
  else none

def queryCounter? (operation : Operation) : Option Counter :=
  if operation.isUpdate then some .queryUpdates
  else if operation.isCreate then some .queryInserts
  else if operation.isDestroy then some .queryDeletes
  else if operation.isInvalidate then some .queryInvalidates
  else none

def queryFlag? (operation : Operation) : Option Flag :=
  if operation.isClear then some .regionCleared
  else if operation.isRegionInvalidate then some .regionInvalidated
  else none

end Operation

namespace Event

variable {K : Type}

def historySteps (event : Event K) : List (Step K) :=
  if event.key.isSome then [.draw, .file event] else []

def keepSteps (event : Event K) : List (Step K) :=
  match event.base.bucket?, event.key with
  | some bucket, some key => [.keep bucket key]
  | _, _ => []

def baseSteps (event : Event K) : List (Step K) :=
  event.base.baseCounters.map Step.count ++ event.keepSteps

def querySteps (event : Event K) : List (Step K) :=
  event.query.queryCounter?.toList.map Step.count ++
    event.query.queryFlag?.toList.map fun flag => .setFlag flag true

/-- An event that reports a failure without a text reports the empty text. -/
def message (event : Event K) : String := event.error.getD ""

end Event

namespace Call

variable {K : Type}

def steps : Call K → List (Step K)
  | event e => .count .total :: .announce (.event e) ::
      (e.historySteps ++ e.baseSteps ++ e.querySteps)
  | error e => [.count .total, .count .errors, .announce (.error e), .keepError e.message]
  | connected => [.count .connects, .announce .connected]
  | disconnected => [.count .disconnects, .announce .disconnected]
  | close => [.setFlag .closed true, .announce .close]
  | reset => [.clear .destroyed, .clear .created, .clear .invalidated, .clear .updated,
      .setFlag .closed false]

/-- What the log says of a call, given the count that was fetched for it. -/
def notice? [Outlined K] (query : String) (fetched : UInt64) : Call K → Option Notice
  | event e => some (.delivered query (shown e.key) e.base e.query (fetched + 1))
  | error e => some (.failed query e.message)
  | connected => some (.connected query (fetched + 1))
  | disconnected => some (.disconnected query (fetched + 1))
  | close => some (.closed query)
  | reset => none

end Call

namespace Step

variable {K : Type}

/-- The effect on the record. -/
def perform [DecidableEq K] (hand : UInt64) (recorder : Recorder K) : Step K → Recorder K
  | count counter => { recorder with stats := recorder.stats.bump counter }
  | announce _ => recorder
  | draw => { recorder with nextTicket := recorder.nextTicket + 1 }
  | file event => { recorder with history := Recorder.file hand event recorder.history }
  | keep bucket key => recorder.setKeys bucket ((recorder.keys bucket).insert key)
  | keepError message => { recorder with errors := recorder.errors.insert message }
  | clear bucket => recorder.setKeys bucket []
  | setFlag flag value => { recorder with stats := recorder.stats.setFlag flag value }
  | read _ => recorder

def fetch (hand : UInt64) (recorder : Recorder K) : Step K → UInt64
  | count counter => recorder.stats.count counter
  | draw => recorder.nextTicket
  | _ => hand

def transcribe (sheet : Stats) (recorder : Recorder K) : Step K → Stats
  | read reading => reading.copy recorder.stats sheet
  | _ => sheet

def notice? [Outlined K] (hand : UInt64) (recorder : Recorder K) : Step K → Option Notice
  | announce call => call.notice? recorder.name hand
  | _ => none

end Step

namespace Recorder

variable {K : Type} [DecidableEq K] [Outlined K]

/-- Carries out steps one after another without interruption. -/
def follow : List (Step K) → UInt64 → Recorder K → Recorder K × List Notice
  | [], _, recorder => (recorder, [])
  | step :: rest, hand, recorder =>
      let (last, notices) := follow rest (step.fetch hand recorder) (step.perform hand recorder)
      (last, (step.notice? hand recorder).toList ++ notices)

/-- The record after a call that nothing interrupts, and what was logged. -/
def receive (recorder : Recorder K) (call : Call K) : Recorder K × List Notice :=
  follow call.steps 0 recorder

def receiveAll (recorder : Recorder K) (calls : List (Call K)) : Recorder K :=
  calls.foldl (fun recorder call => (recorder.receive call).1) recorder

end Recorder

end QueryRecorder
