import QueryRecorder.Json.Value
import QueryRecorder.Text.Quoted

/-!
The compact text of a JSON value: no blanks, members in their order, and in strings only the quote,
the backslash and the controls below the space escaped.
-/

namespace QueryRecorder.Json

open Text (backslash doubleQuote)

def hexDigit (n : Nat) : Char := Nat.digitChar n

def escaped (c : Char) : List Char :=
  if c = doubleQuote then [backslash, doubleQuote]
  else if c = backslash then [backslash, backslash]
  else if c = '\x08' then [backslash, 'b']
  else if c = '\x0c' then [backslash, 'f']
  else if c = '\n' then [backslash, 'n']
  else if c = '\r' then [backslash, 'r']
  else if c = '\t' then [backslash, 't']
  else if c.toNat < 0x20 then
    [backslash, 'u', '0', '0', hexDigit (c.toNat / 16), hexDigit (c.toNat % 16)]
  else [c]

def writeText (text : String) : List Char :=
  doubleQuote :: text.toList.flatMap escaped ++ [doubleQuote]

def writeInt : Int → List Char
  | .ofNat n => Nat.toDigits 10 n
  | .negSucc n => '-' :: Nat.toDigits 10 (n + 1)

mutual

def write : Json → List Char
  | null => ['n', 'u', 'l', 'l']
  | bool true => ['t', 'r', 'u', 'e']
  | bool false => ['f', 'a', 'l', 's', 'e']
  | int value => writeInt value
  | real mantissa exponent => writeInt mantissa ++ 'e' :: writeInt exponent
  | str text => writeText text
  | arr [] => ['[', ']']
  | arr (item :: rest) => '[' :: write item ++ writeItems rest
  | obj [] => ['\x7b', '\x7d']
  | obj ((name, value) :: rest) =>
      '\x7b' :: writeText name ++ ':' :: write value ++ writeMembers rest

/-- The items after the first, and the closing bracket. -/
def writeItems : List Json → List Char
  | [] => [']']
  | item :: rest => ',' :: write item ++ writeItems rest

/-- The members after the first, and the closing brace. -/
def writeMembers : List (String × Json) → List Char
  | [] => ['\x7d']
  | (name, value) :: rest =>
      ',' :: writeText name ++ ':' :: write value ++ writeMembers rest

end

def text (json : Json) : String := String.ofList (write json)

end QueryRecorder.Json
