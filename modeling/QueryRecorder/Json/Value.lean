/-!
JSON values. Whole numbers are kept apart from numbers with a point or an exponent, and the members of
an object stay in the order in which they were written.
-/

namespace QueryRecorder

inductive Json
  | null
  | bool (value : Bool)
  | int (value : Int)
  /-- The product of `mantissa` and ten to the power `exponent`. -/
  | real (mantissa exponent : Int)
  | str (text : String)
  | arr (items : List Json)
  | obj (members : List (String × Json))
  deriving Inhabited

namespace Json

/-- The member of that name; of several the last. -/
def memberOf? (name : String) (members : List (String × Json)) : Option Json :=
  (members.reverse.find? fun member => member.1 == name).map (·.2)

def member? (name : String) : Json → Option Json
  | obj members => memberOf? name members
  | _ => none

/-- A number with a point: positional, with at least one decimal. -/
def realText (mantissa exponent : Int) : String :=
  let digits := Nat.toDigits 10 mantissa.natAbs
  let places := (-exponent).toNat
  let padded := List.replicate (places + 1 - digits.length) '0' ++ digits ++
    List.replicate exponent.toNat '0'
  let whole := padded.take (padded.length - places)
  let part := ((padded.drop (padded.length - places)).reverse.dropWhile (· == '0')).reverse
  String.ofList ((if mantissa < 0 then ['-'] else []) ++ whole ++
    '.' :: (if part.isEmpty then ['0'] else part))

end Json

end QueryRecorder
