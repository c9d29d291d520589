import QueryRecorder.Json.Value
import QueryRecorder.Text.Quoted

/-!
Why a JSON value cannot be read as the data that was asked for.
-/

namespace QueryRecorder

/-- What a JSON value looks like to someone who wanted something else. -/
inductive Json.Glimpse
  | null
  | boolean (value : Bool)
  | integer (value : Int)
  | floating (mantissa exponent : Int)
  | text (value : String)
  | sequence
  | map
  deriving DecidableEq

namespace Json

def glimpse : Json → Glimpse
  | .null => .null
  | .bool value => .boolean value
  | .int value => .integer value
  | .real mantissa exponent => .floating mantissa exponent
  | .str value => .text value
  | .arr _ => .sequence
  | .obj _ => .map

def Glimpse.describe : Glimpse → String
  | null => "null"
  | boolean value => "boolean `" ++ (if value then "true" else "false") ++ "`"
  | integer value => "integer `" ++ toString value ++ "`"
  | floating mantissa exponent => "floating point `" ++ realText mantissa exponent ++ "`"
  | text value => "string " ++ Text.quoted value
  | sequence => "sequence"
  | map => "map"

end Json

/-- A fault names what was met and what was expected in its place. -/
inductive Fault
  | invalidType (found : Json.Glimpse) (expected : String)
  | invalidValue (found : Json.Glimpse) (expected : String)
  | invalidLength (length : Nat) (expected : String)
  | unknownVariant (name : String) (known : List String)
  | missingField (name : String)
  deriving DecidableEq

namespace Fault

def message : Fault → String
  | invalidType found expected => "invalid type: " ++ found.describe ++ ", expected " ++ expected
  | invalidValue found expected => "invalid value: " ++ found.describe ++ ", expected " ++ expected
  | invalidLength length expected =>
      "invalid length " ++ toString length ++ ", expected " ++ expected
  | unknownVariant name known =>
      "unknown variant `" ++ name ++ "`, expected one of " ++
        ", ".intercalate (known.map fun variant => "`" ++ variant ++ "`")
  | missingField name => "missing field `" ++ name ++ "`"

def wrongType {α : Type} (found : Json) (expected : String) : Except Fault α :=
  .error (invalidType found.glimpse expected)

def wrongValue {α : Type} (found : Json) (expected : String) : Except Fault α :=
  .error (invalidValue found.glimpse expected)

end Fault

end QueryRecorder
