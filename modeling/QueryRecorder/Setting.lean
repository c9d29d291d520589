import QueryRecorder.Duration
import QueryRecorder.Text.Blank
import QueryRecorder.Text.Decimal

/-!
Settings found in the environment, and their reading as counts of milliseconds by `parse_millis`: blanks
around the digits are ignored, anything else in the text makes it unreadable. `InvalidMillis` is the
`ConfigError` that says so.
-/

namespace QueryRecorder

/-- A variable is unset, holds bytes that are no text, or holds a text. -/
inductive Setting
  | unset
  | garbled
  | text (value : String)
  deriving DecidableEq

def Setting.ofBytes (bytes : ByteArray) : Setting :=
  match String.fromUTF8? bytes with
  | some value => .text value
  | none => .garbled

/-- A text that is no number of milliseconds, with the variable that held it. -/
structure InvalidMillis where
  name : String
  value : String
  deriving DecidableEq

namespace InvalidMillis

def message (fault : InvalidMillis) : String :=
  "invalid value for " ++ fault.name ++ ": " ++ Text.quoted fault.value ++
    " is not a number of milliseconds"

instance : Outlined InvalidMillis where
  outline fault :=
    .record "InvalidMillis" [("name", outline fault.name), ("value", outline fault.value)] true

end InvalidMillis

def parseMillis (name value : String) : Except InvalidMillis Duration :=
  match Text.readCount? (Text.trim value.toList) with
  | some count => .ok (.ofMillis count.toNat)
  | none => .error ⟨name, value⟩

end QueryRecorder
