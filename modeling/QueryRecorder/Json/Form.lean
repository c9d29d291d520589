import QueryRecorder.Json.Fault
import QueryRecorder.Operation

/-!
The JSON form of simple data: how a value is written and which JSON values are read back as one. The
data are the contents of the fields of `CqEvent`, `ListenerStats` and `ExpectedEvents`.
-/

namespace QueryRecorder

class JsonForm (α : Type) where
  toJson : α → Json
  ofJson : Json → Except Fault α

export JsonForm (toJson ofJson)

def readString : Json → Except Fault String
  | .str text => .ok text
  | found => Fault.wrongType found "a string"

instance : JsonForm String := ⟨.str, readString⟩

def readBool : Json → Except Fault Bool
  | .bool value => .ok value
  | found => Fault.wrongType found "a boolean"

instance : JsonForm Bool := ⟨.bool, readBool⟩

def readUInt64 : Json → Except Fault UInt64
  | .int value =>
      if 0 ≤ value ∧ value < UInt64.size then .ok (UInt64.ofNat value.toNat)
      else Fault.wrongValue (.int value) "u64"
  | found => Fault.wrongType found "u64"

instance : JsonForm UInt64 := ⟨fun n => .int n.toNat, readUInt64⟩

def readInt64 : Json → Except Fault Int64
  | .int value =>
      if Int64.minValue.toInt ≤ value ∧ value ≤ Int64.maxValue.toInt then .ok (Int64.ofInt value)
      else Fault.wrongValue (.int value) "i64"
  | found => Fault.wrongType found "i64"

instance : JsonForm Int64 := ⟨fun n => .int n.toInt, readInt64⟩

/-- A character is a string of exactly one. -/
def readChar : Json → Except Fault Char
  | .str text =>
      match text.toList with
      | [c] => .ok c
      | _ => Fault.wrongValue (.str text) "a character"
  | found => Fault.wrongType found "a character"

instance : JsonForm Char := ⟨fun c => .str (String.singleton c), readChar⟩

def readOption {α : Type} [JsonForm α] : Json → Except Fault (Option α)
  | .null => .ok none
  | found => (ofJson found).map some

def writeOption {α : Type} [JsonForm α] : Option α → Json
  | none => .null
  | some value => toJson value

instance {α : Type} [JsonForm α] : JsonForm (Option α) := ⟨writeOption, readOption⟩

/-- Elements are read in order and the first that fails decides. -/
def readEach {α : Type} [JsonForm α] : List Json → Except Fault (List α)
  | [] => .ok []
  | item :: rest => do
      let value ← ofJson item
      let values ← readEach rest
      .ok (value :: values)

def readList {α : Type} [JsonForm α] : Json → Except Fault (List α)
  | .arr items => readEach items
  | found => Fault.wrongType found "a sequence"

instance {α : Type} [JsonForm α] : JsonForm (List α) :=
  ⟨fun values => .arr (values.map toJson), readList⟩

/-- The elements that are there are read before a wrong number of them is reported. -/
def readPair {α β : Type} [JsonForm α] [JsonForm β] : Json → Except Fault (α × β)
  | .arr [] => .error (.invalidLength 0 "a tuple of size 2")
  | .arr [first] => do
      let _ : α ← ofJson first
      .error (.invalidLength 1 "a tuple of size 2")
  | .arr (first :: second :: rest) => do
      let a ← ofJson first
      let b ← ofJson second
      if rest.isEmpty then .ok (a, b)
      else .error (.invalidLength (rest.length + 2) "fewer elements in array")
  | found => Fault.wrongType found "a tuple of size 2"

instance {α β : Type} [JsonForm α] [JsonForm β] : JsonForm (α × β) :=
  ⟨fun pair => .arr [toJson pair.1, toJson pair.2], readPair⟩

def readVariant (name : String) : Except Fault Operation :=
  match Operation.ofName? name with
  | some operation => .ok operation
  | none => .error (.unknownVariant name (Operation.all.map Operation.name))

/-- An operation is its name, alone or as the one member of an object whose value is null. -/
def readOperation : Json → Except Fault Operation
  | .str name => readVariant name
  | .obj [(name, value)] => do
      let operation ← readVariant name
      match value with
      | .null => .ok operation
      | found => Fault.wrongType found "unit"
  | .obj members => Fault.wrongValue (.obj members) "map with a single key"
  | found => Fault.wrongType found "string or map"

instance : JsonForm Operation := ⟨fun operation => .str operation.name, readOperation⟩

end QueryRecorder
