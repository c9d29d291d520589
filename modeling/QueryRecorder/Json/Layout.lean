import QueryRecorder.Json.Form
import QueryRecorder.Outline

/-!
Records as JSON. A layout lists the fields of a record in the order in which they are declared, as the
serialised forms derived for `CqEvent`, `ListenerStats` and `ExpectedEvents` do; the record is written as
an object in that order, and read either from an object, whose members may come in any order and among
others, or from an array with one element for each field.

Faults of an object are looked for in the order of the names of the members, and a missing field is
reported only when every member that is there could be read. Faults of an array are looked for from
its first element on, and its length is judged last.
-/

namespace QueryRecorder

/-- One field of a record `R`: how it is shown, written, and read into a record. -/
structure Field (R : Type) where
  name : String
  required : Bool
  write : R → Json
  read : Json → R → Except Fault R
  display : R → Outline

namespace Field

variable {R α : Type} [JsonForm α] [Outlined α]

def mandatory (name : String) (get : R → α) (set : α → R → R) : Field R where
  name := name
  required := true
  write record := toJson (get record)
  read json record := (ofJson json).map fun value => set value record
  display record := outline (get record)

/-- A field that stays as it is in the blank record when no member names it. -/
def optional (name : String) (get : R → α) (set : α → R → R) : Field R :=
  { mandatory name get set with required := false }

end Field

structure Layout (R : Type) where
  name : String
  blank : R
  fields : List (Field R)

namespace Layout

variable {R : Type}

def write (layout : Layout R) (record : R) : Json :=
  .obj (layout.fields.map fun field => (field.name, field.write record))

def outlineOf (layout : Layout R) (record : R) : Outline :=
  .record layout.name (layout.fields.map fun field => (field.name, field.display record)) true

def byName (layout : Layout R) : List (Field R) :=
  layout.fields.mergeSort fun a b => a.name ≤ b.name

theorem byName_perm (layout : Layout R) : layout.byName.Perm layout.fields := List.mergeSort_perm _ _

def readMember (members : List (String × Json)) (record : R) (field : Field R) : Except Fault R :=
  match Json.memberOf? field.name members with
  | some json => field.read json record
  | none => .ok record

/-- The first required field, as declared, that no member names. -/
def missing? (layout : Layout R) (members : List (String × Json)) : Option (Field R) :=
  layout.fields.find? fun field =>
    field.required && (Json.memberOf? field.name members).isNone

def readMembers (layout : Layout R) (members : List (String × Json)) : Except Fault R := do
  let record ← layout.byName.foldlM (readMember members) layout.blank
  match layout.missing? members with
  | some field => .error (.missingField field.name)
  | none => .ok record

def expectation (layout : Layout R) : String :=
  "struct " ++ layout.name ++ " with " ++ toString layout.fields.length ++ " elements"

/-- Reads the elements into the fields one by one; `total` is the length of the whole array. -/
def readElements (layout : Layout R) (total : Nat) :
    List (Field R) → List Json → R → Except Fault R
  | [], [], record => .ok record
  | [], _ :: _, _ => .error (.invalidLength total "fewer elements in array")
  | _ :: _, [], _ => .error (.invalidLength total layout.expectation)
  | field :: fields, json :: rest, record => do
      let record ← field.read json record
      readElements layout total fields rest record

def read (layout : Layout R) : Json → Except Fault R
  | .obj members => layout.readMembers members
  | .arr items => layout.readElements items.length layout.fields items layout.blank
  | found => Fault.wrongType found ("struct " ++ layout.name)

end Layout

end QueryRecorder
