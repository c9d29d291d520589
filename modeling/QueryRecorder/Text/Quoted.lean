import QueryRecorder.Text.Unprintable

/-!
Quoted text: between quotes, with a backslash before the quote and the backslash, letters for four
controls, and the code point in hexadecimal for every other character that would not be seen. All
other characters stand for themselves. Messages show keys, error texts and settings so.
-/

namespace QueryRecorder.Text

def backslash : Char := '\x5c'

def doubleQuote : Char := '\x22'

def singleQuote : Char := '\x27'

/-- The code point of a character, written without leading zeros. -/
def byNumber (c : Char) : List Char :=
  backslash :: 'u' :: '\x7b' :: Nat.toDigits 16 c.toNat ++ ['\x7d']

def escaped (quote c : Char) : List Char :=
  if c = '\x00' then [backslash, '0']
  else if c = '\t' then [backslash, 't']
  else if c = '\r' then [backslash, 'r']
  else if c = '\n' then [backslash, 'n']
  else if c = quote ∨ c = backslash then [backslash, c]
  else if isUnprintable c then byNumber c
  else [c]

def quotedWith (quote : Char) (text : List Char) : List Char :=
  quote :: text.flatMap (escaped quote) ++ [quote]

def quoted (text : String) : String := String.ofList (quotedWith doubleQuote text.toList)

def quotedChar (c : Char) : String := String.ofList (quotedWith singleQuote [c])

end QueryRecorder.Text
