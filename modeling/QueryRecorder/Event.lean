import QueryRecorder.Json.Layout

/-!
Notifications of a continuous query, as `CqEvent` has them: `ofChange` is its `new`, `failure` its
`error`. An event without a key concerns a region, and only an event that reports a failure carries an
error text.
-/

namespace QueryRecorder

structure Event (K : Type) where
  base : Operation
  query : Operation
  key : Option K
  error : Option String
  deriving DecidableEq

namespace Event

variable {K : Type}

def ofChange (base query : Operation) (key : Option K) : Event K := ⟨base, query, key, none⟩

/-- A change of one entry that did the same to the query's result. -/
def keyed (operation : Operation) (key : K) : Event K := ofChange operation operation (some key)

def region (operation : Operation) : Event K := ofChange operation operation none

def failure (message : String) : Event K := ⟨.marker, .marker, none, some message⟩

def withError (event : Event K) (message : String) : Event K := { event with error := some message }

def isError (event : Event K) : Bool := event.error.isSome

def layout [JsonForm K] [Outlined K] : Layout (Event K) where
  name := "CqEvent"
  blank := region .marker
  fields :=
    [.mandatory "base_operation" base fun value event => { event with base := value },
     .mandatory "query_operation" query fun value event => { event with query := value },
     .optional "key" key fun value event => { event with key := value },
     .optional "error" error fun value event => { event with error := value }]

instance [JsonForm K] [Outlined K] : JsonForm (Event K) := ⟨layout.write, layout.read⟩

instance [JsonForm K] [Outlined K] : Outlined (Event K) := ⟨layout.outlineOf⟩

end Event

end QueryRecorder
