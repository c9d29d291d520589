import QueryRecorder.Recorder

/-!
What a recorder says of itself: the `summary` of the figures that `print_info` logs, with the sets of
keys if asked for, and an outline of the names and figures.
-/

namespace QueryRecorder.Recorder

variable {K : Type}

def countText (recorder : Recorder K) (counter : Counter) : String :=
  toString (recorder.stats.count counter).toNat

def figuresText (recorder : Recorder K) : String :=
  "####" ++ recorder.identity ++
    ": Events Total: " ++ recorder.countText .total ++
    " Events Created: " ++ recorder.countText .creates ++
    " Events Updated: " ++ recorder.countText .updates ++
    " Events Deleted: " ++ recorder.countText .deletes ++
    " Events Invalidated: " ++ recorder.countText .invalidates ++
    " Events Errored: " ++ recorder.countText .errors ++
    " Query Inserts: " ++ recorder.countText .queryInserts ++
    " Query Updates: " ++ recorder.countText .queryUpdates ++
    " Query Deletes: " ++ recorder.countText .queryDeletes ++
    " Query Invalidates: " ++ recorder.countText .queryInvalidates

def sizeText (recorder : Recorder K) (bucket : Bucket) : String :=
  toString (recorder.keys bucket).length

def keysText [Outlined K] (recorder : Recorder K) (orders : Bucket → Arrangement K) : String :=
  let listed (bucket : Bucket) : String := shown (recorder.listed (orders bucket) bucket)
  "\nNumber of creates for key: " ++ recorder.sizeText .created ++
    " updates: " ++ recorder.sizeText .updated ++
    " destroys: " ++ recorder.sizeText .destroyed ++
    " invalidates: " ++ recorder.sizeText .invalidated ++
    "\nKeys in created set: " ++ listed .created ++
    "\nKeys in updated set: " ++ listed .updated ++
    "\nKeys in destroyed set: " ++ listed .destroyed ++
    "\nKeys in invalidated set: " ++ listed .invalidated

def summary [Outlined K] (recorder : Recorder K) (orders : Bucket → Arrangement K)
    (withKeys : Bool) : String :=
  if withKeys then recorder.figuresText ++ recorder.keysText orders else recorder.figuresText

instance : Outlined (Recorder K) where
  outline recorder :=
    .record "CqTestListener"
      [("cq_name", outline recorder.name), ("user_name", outline recorder.user),
       ("stats", outline recorder.stats)] false

end QueryRecorder.Recorder
