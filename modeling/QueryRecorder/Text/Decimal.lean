/-!
Counts in decimal digits: their value, and the reader of a 64-bit count that `parse_millis` calls, which
allows one plus sign and any number of leading zeros.
-/

namespace QueryRecorder.Text

def digitValue (c : Char) : Nat := c.toNat - 48

def valueOf (text : List Char) : Nat :=
  text.foldl (fun value c => 10 * value + digitValue c) 0

def isDecimal (text : List Char) : Bool := !text.isEmpty && text.all Char.isDigit

def dropPlus : List Char → List Char
  | '+' :: rest => rest
  | text => text

def readCount? (text : List Char) : Option UInt64 :=
  let body := dropPlus text
  if isDecimal body && valueOf body < UInt64.size then some (UInt64.ofNat (valueOf body)) else none

end QueryRecorder.Text
