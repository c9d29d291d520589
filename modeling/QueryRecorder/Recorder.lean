import QueryRecorder.Event
import QueryRecorder.Key
import QueryRecorder.Patience
import QueryRecorder.Stats

/-!
The record that is kept of one continuous query, as `CqTestListener` keeps it: figures, the keys seen by
each kind of change, the error texts, and the history of the events that carry a key. An event enters
the history under a ticket that was drawn for it, so that the order of arrival can be told whatever the
order of the entries.

The sets have no order of their own, and nothing is known of the order in which one is listed:
`created_keys` and its siblings (`listed`), `errors` (`listedErrors`) and the search of `has_error`
(`passedOver`) may meet the members in any. `events` and `keys` (`eventKeys`) go by the tickets.
-/

namespace QueryRecorder

/-- An order in which a set may be listed: any, with every member once. -/
structure Arrangement (α : Type) where
  arrange : List α → List α
  perm : ∀ members, (arrange members).Perm members

inductive Bucket
  | created
  | updated
  | destroyed
  | invalidated
  deriving DecidableEq

structure Recorder (K : Type) where
  name : String
  user : Option String
  patience : Patience
  stats : Stats
  created : List K
  updated : List K
  destroyed : List K
  invalidated : List K
  errors : List String
  nextTicket : UInt64
  /-- The events under their tickets, the highest ticket first. -/
  history : List (UInt64 × Event K)

namespace Recorder

variable {K : Type}

def withPatience (name : String) (patience : Patience) : Recorder K where
  name := name
  user := none
  patience := patience
  stats := .zero
  created := []
  updated := []
  destroyed := []
  invalidated := []
  errors := []
  nextTicket := 0
  history := []

def ofEnvironment (name : String) (environment : String → Setting) : Recorder K × List Notice :=
  let (patience, notices) := Patience.ofEnvironment environment
  (withPatience name patience, notices)

def withUser (recorder : Recorder K) (user : String) : Recorder K :=
  { recorder with user := some user }

def identity (recorder : Recorder K) : String :=
  match recorder.user with
  | some user => recorder.name ++ " (user " ++ user ++ ")"
  | none => recorder.name

def keys (recorder : Recorder K) : Bucket → List K
  | .created => recorder.created
  | .updated => recorder.updated
  | .destroyed => recorder.destroyed
  | .invalidated => recorder.invalidated

def setKeys (recorder : Recorder K) (bucket : Bucket) (keys : List K) : Recorder K :=
  match bucket with
  | .created => { recorder with created := keys }
  | .updated => { recorder with updated := keys }
  | .destroyed => { recorder with destroyed := keys }
  | .invalidated => { recorder with invalidated := keys }

def holds [DecidableEq K] (recorder : Recorder K) (bucket : Bucket) (key : K) : Bool :=
  (recorder.keys bucket).contains key

def listed (recorder : Recorder K) (order : Arrangement K) (bucket : Bucket) : List K :=
  order.arrange (recorder.keys bucket)

def listedErrors (recorder : Recorder K) (order : Arrangement String) : List String :=
  order.arrange recorder.errors

def hasError (recorder : Recorder K) (message : String) : Bool := recorder.errors.contains message

/-- The error texts that a search for `message` meets before it finds it, or all of them. -/
def passedOver (recorder : Recorder K) (order : Arrangement String) (message : String) : List String :=
  (recorder.listedErrors order).takeWhile (· ≠ message)

/-- Entries stand by falling ticket, and a new one takes the place of any other with its ticket. -/
def file (ticket : UInt64) (event : Event K) :
    List (UInt64 × Event K) → List (UInt64 × Event K)
  | [] => [(ticket, event)]
  | entry :: rest =>
      if entry.1 < ticket then (ticket, event) :: entry :: rest
      else if entry.1 = ticket then (ticket, event) :: rest
      else entry :: file ticket event rest

def inOrder (history : List (UInt64 × Event K)) : List (Event K) :=
  (history.mergeSort fun a b => a.1 ≤ b.1).map (·.2)

def events (recorder : Recorder K) : List (Event K) := inOrder recorder.history

-- The keys of the recorded events in the order of their arrival, repetitions kept.
def eventKeys (recorder : Recorder K) : List K := recorder.events.filterMap (·.key)

theorem keys_setKeys (recorder : Recorder K) (bucket other : Bucket) (keys : List K) :
    (recorder.setKeys bucket keys).keys other = if other = bucket then keys else recorder.keys other := by
  cases bucket <;> cases other <;> rfl

end Recorder

end QueryRecorder
