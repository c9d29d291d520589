import QueryRecorder.Outline

/-!
Lengths of time in whole nanoseconds, and their text: in the largest of the units second,
millisecond, microsecond and nanosecond that fits, with as many decimals as are needed.
-/

namespace QueryRecorder

structure Duration where
  nanos : Nat
  deriving DecidableEq, Inhabited

namespace Duration

def zero : Duration := ⟨0⟩

def ofMillis (count : Nat) : Duration := ⟨count * 1000000⟩

def ofParts (seconds nanos : Nat) : Duration := ⟨seconds * 1000000000 + nanos⟩

def seconds (d : Duration) : Nat := d.nanos / 1000000000

def subsecond (d : Duration) : Nat := d.nanos % 1000000000

def millis (d : Duration) : Nat := d.nanos / 1000000

instance : LE Duration := ⟨fun a b => a.nanos ≤ b.nanos⟩

instance (a b : Duration) : Decidable (a ≤ b) := inferInstanceAs (Decidable (a.nanos ≤ b.nanos))

instance : Add Duration := ⟨fun a b => ⟨a.nanos + b.nanos⟩⟩

instance : Sub Duration := ⟨fun a b => ⟨a.nanos - b.nanos⟩⟩

instance : Min Duration := ⟨fun a b => ⟨min a.nanos b.nanos⟩⟩

instance : Max Duration := ⟨fun a b => ⟨max a.nanos b.nanos⟩⟩

/-- The digits after the point: `part` in `width` places, without the zeros at the end. -/
def decimals (part width : Nat) : List Char :=
  (((Nat.toDigits 10 part).leftpad width '0').reverse.dropWhile (· == '0')).reverse

/-- A number of nanoseconds in a unit of ten to the power `width` of them. -/
def inUnit (nanos width : Nat) (unit : String) : String :=
  let size := Nat.pow 10 width
  let part := decimals (nanos % size) width
  toString (nanos / size) ++ (if part.isEmpty then "" else "." ++ String.ofList part) ++ unit

def text (d : Duration) : String :=
  if 1000000000 ≤ d.nanos then inUnit d.nanos 9 "s"
  else if 1000000 ≤ d.nanos then inUnit d.nanos 6 "ms"
  else if 1000 ≤ d.nanos then inUnit d.nanos 3 "µs"
  else inUnit d.nanos 0 "ns"

end Duration

instance : Outlined Duration := ⟨fun d => .word d.text⟩

end QueryRecorder
