/-!
The operation that a notification carries. One enumeration serves both sides of an event: its base
operation is the change made to the entry, its query operation is what that change did to the result
of the continuous query. The predicates are those of `Operation`, `is_create` to `is_region`.
-/

namespace QueryRecorder

inductive Operation
  | create
  | update
  | destroy
  | invalidate
  | regionClear
  | regionInvalidate
  | regionDestroy
  | marker
  deriving DecidableEq, Inhabited

namespace Operation

-- In the order in which messages list them.
def all : List Operation :=
  [create, update, destroy, invalidate, regionClear, regionInvalidate, regionDestroy, marker]

-- The name as data.
def name : Operation → String
  | create => "Create"
  | update => "Update"
  | destroy => "Destroy"
  | invalidate => "Invalidate"
  | regionClear => "RegionClear"
  | regionInvalidate => "RegionInvalidate"
  | regionDestroy => "RegionDestroy"
  | marker => "Marker"

-- The name in log records.
def logName : Operation → String
  | create => "CREATE"
  | update => "UPDATE"
  | destroy => "DESTROY"
  | invalidate => "INVALIDATE"
  | regionClear => "REGION_CLEAR"
  | regionInvalidate => "REGION_INVALIDATE"
  | regionDestroy => "REGION_DESTROY"
  | marker => "MARKER"

def ofName? (name : String) : Option Operation :=
  all.find? fun operation => operation.name == name

@[simp] def isCreate (operation : Operation) : Bool := operation = create

@[simp] def isUpdate (operation : Operation) : Bool := operation = update

@[simp] def isDestroy (operation : Operation) : Bool := operation = destroy

@[simp] def isInvalidate (operation : Operation) : Bool := operation = invalidate

@[simp] def isClear (operation : Operation) : Bool := operation = regionClear

@[simp] def isRegionInvalidate (operation : Operation) : Bool := operation = regionInvalidate

-- A region operation concerns a whole region and not one entry.
def isRegion : Operation → Bool
  | regionClear | regionInvalidate | regionDestroy => true
  | _ => false

theorem ofName_name (operation : Operation) : ofName? operation.name = some operation := by
  cases operation <;> decide

end Operation

end QueryRecorder
