import QueryRecorder.Json.Writer
import QueryRecorder.Text.Decimal

/-!
Reading JSON text. A reader takes the characters that are left and gives what it read together with
the rest. Its bound covers every value, item and member as each takes at least one character of the
text; its levels are the arrays and objects that may still be opened.

Of members with one name the last is kept, and a whole number that fits no word of 64 bits is kept as a
number with a point. Such a number keeps all its digits: it is neither rounded to a double nor refused
for its size, and a zero loses its sign.
-/

namespace QueryRecorder.Json

open Text (backslash doubleQuote digitValue valueOf)

def isGap (c : Char) : Bool := c == ' ' || c == '\n' || c == '\r' || c == '\t'

def skipGap (text : List Char) : List Char := text.dropWhile isGap

def hexValue? (c : Char) : Option Nat :=
  if '0' ≤ c ∧ c ≤ '9' then some (c.toNat - 48)
  else if 'a' ≤ c ∧ c ≤ 'f' then some (c.toNat - 87)
  else if 'A' ≤ c ∧ c ≤ 'F' then some (c.toNat - 55)
  else none

def hexUnit? (a b c d : Char) : Option Nat := do
  let a ← hexValue? a
  let b ← hexValue? b
  let c ← hexValue? c
  let d ← hexValue? d
  some (((a * 16 + b) * 16 + c) * 16 + d)

def isHighHalf (unit : Nat) : Bool := 0xd800 ≤ unit && unit ≤ 0xdbff

def isLowHalf (unit : Nat) : Bool := 0xdc00 ≤ unit && unit ≤ 0xdfff

/-- The character beyond the sixteen-bit range that two halves write. -/
def joinHalves (high low : Nat) : Char :=
  Char.ofNat (0x10000 + (high - 0xd800) * 0x400 + (low - 0xdc00))

/-- What a letter after a backslash stands for. -/
def unescape? (c : Char) : Option Char :=
  if c = doubleQuote ∨ c = backslash ∨ c = '/' then some c
  else if c = 'b' then some '\x08'
  else if c = 'f' then some '\x0c'
  else if c = 'n' then some '\n'
  else if c = 'r' then some '\r'
  else if c = 't' then some '\t'
  else none

def readText : List Char → Option (List Char × List Char)
  | [] => none
  | '\x22' :: rest => some ([], rest)
  | '\x5c' :: 'u' :: a :: b :: c :: d :: rest => do
      let unit ← hexUnit? a b c d
      if isHighHalf unit then
        match rest with
        | '\x5c' :: 'u' :: e :: f :: g :: h :: after => do
            let low ← hexUnit? e f g h
            if isLowHalf low then
              let (chars, left) ← readText after
              some (joinHalves unit low :: chars, left)
            else none
        | _ => none
      else if isLowHalf unit then none
      else
        let (chars, left) ← readText rest
        some (Char.ofNat unit :: chars, left)
  | '\x5c' :: letter :: rest => do
      let c ← unescape? letter
      let (chars, left) ← readText rest
      some (c :: chars, left)
  | c :: rest =>
      if c.toNat < 0x20 then none
      else do
        let (chars, left) ← readText rest
        some (c :: chars, left)

def takeDigits (text : List Char) : List Char × List Char :=
  (text.takeWhile Char.isDigit, text.dropWhile Char.isDigit)

def takeMinus : List Char → Bool × List Char
  | '-' :: rest => (true, rest)
  | text => (false, text)

def signed (negative : Bool) (size : Nat) : Int := if negative then -(size : Int) else size

def isWhole : List Char → Bool
  | [] => false
  | ['0'] => true
  | '0' :: _ => false
  | _ => true

/-- The decimals after a point, if one is there; a point alone is refused. -/
def readDecimals : List Char → Option (List Char × List Char)
  | '.' :: rest =>
      let (part, left) := takeDigits rest
      if part.isEmpty then none else some (part, left)
  | text => some ([], text)

def takeSign : List Char → Bool × List Char
  | '+' :: rest => (false, rest)
  | text => takeMinus text

/-- The exponent after the letter, if one is there; the letter alone is refused. -/
def readExponent (text : List Char) : Option (Option Int × List Char) :=
  match text with
  | [] => some (none, [])
  | c :: rest =>
      if c = 'e' ∨ c = 'E' then
        let (negative, body) := takeSign rest
        let (part, left) := takeDigits body
        if part.isEmpty then none else some (some (signed negative (valueOf part)), left)
      else some (none, text)

def fitsWord (value : Int) : Bool := Int64.minValue.toInt ≤ value && value < UInt64.size

-- A zero with a minus in front is no word either.
def wholeNumber (negative : Bool) (size : Nat) : Json :=
  let value := signed negative size
  if fitsWord value && !(negative && size == 0) then int value else real value 0

def readNumber (text : List Char) : Option (Json × List Char) := do
  let (negative, body) := takeMinus text
  let (whole, afterWhole) := takeDigits body
  if isWhole whole then
    let (part, afterPart) ← readDecimals afterWhole
    let (exponent, left) ← readExponent afterPart
    let size := valueOf (whole ++ part)
    match part, exponent with
    | [], none => some (wholeNumber negative size, left)
    | _, _ => some (real (signed negative size) (exponent.getD 0 - part.length), left)
  else none

/-- Of members with one name the last. -/
def latest : List (String × Json) → List (String × Json)
  | [] => []
  | member :: rest =>
      if rest.any fun later => later.1 == member.1 then latest rest else member :: latest rest

mutual

def readValue : Nat → Nat → List Char → Option (Json × List Char)
  | 0, _, _ => none
  | bound + 1, levels, text =>
      match skipGap text with
      | 'n' :: 'u' :: 'l' :: 'l' :: rest => some (null, rest)
      | 't' :: 'r' :: 'u' :: 'e' :: rest => some (bool true, rest)
      | 'f' :: 'a' :: 'l' :: 's' :: 'e' :: rest => some (bool false, rest)
      | '\x22' :: rest => do
          let (chars, left) ← readText rest
          some (str (String.ofList chars), left)
      | '[' :: rest =>
          match levels with
          | 0 => none
          | deeper + 1 =>
              match skipGap rest with
              | ']' :: left => some (arr [], left)
              | _ => do
                  let (items, left) ← readItems bound deeper rest
                  some (arr items, left)
      | '\x7b' :: rest =>
          match levels with
          | 0 => none
          | deeper + 1 =>
              match skipGap rest with
              | '\x7d' :: left => some (obj [], left)
              | _ => do
                  let (members, left) ← readMembers bound deeper rest
                  some (obj (latest members), left)
      | rest => readNumber rest

-- One item at least, and the closing bracket.
def readItems : Nat → Nat → List Char → Option (List Json × List Char)
  | 0, _, _ => none
  | bound + 1, levels, text => do
      let (item, rest) ← readValue bound levels text
      match skipGap rest with
      | ']' :: left => some ([item], left)
      | ',' :: more => do
          let (items, left) ← readItems bound levels more
          some (item :: items, left)
      | _ => none

-- One member at least, and the closing brace.
def readMembers : Nat → Nat → List Char → Option (List (String × Json) × List Char)
  | 0, _, _ => none
  | bound + 1, levels, text =>
      match skipGap text with
      | '\x22' :: body => do
          let (name, afterName) ← readText body
          match skipGap afterName with
          | ':' :: afterColon => do
              let (value, rest) ← readValue bound levels afterColon
              match skipGap rest with
              | '\x7d' :: left => some ([(String.ofList name, value)], left)
              | ',' :: more => do
                  let (members, left) ← readMembers bound levels more
                  some ((String.ofList name, value) :: members, left)
              | _ => none
          | _ => none
      | _ => none

end

/-- How many arrays and objects may stand in one another. -/
abbrev deepest : Nat := 127

def parse? (text : String) : Option Json := do
  let chars := text.toList
  let (value, rest) ← readValue (chars.length + 1) deepest chars
  if (skipGap rest).isEmpty then some value else none

end QueryRecorder.Json
