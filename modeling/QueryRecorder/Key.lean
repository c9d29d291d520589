import QueryRecorder.Json.Form
import QueryRecorder.Outline

/-!
Keys of entries. Of the types that may be a `CqKey` seven are recorded here: texts, unsigned and signed
words, truth values, characters, pairs of a text and a word, and lists of texts. Each has a JSON form and
an outline.
-/

namespace QueryRecorder

inductive KeyKind
  | text
  | unsigned
  | signed
  | truth
  | character
  | pair
  | list
  deriving DecidableEq

namespace KeyKind

abbrev Keys : KeyKind → Type
  | text => String
  | unsigned => UInt64
  | signed => Int64
  | truth => Bool
  | character => Char
  | pair => String × Int64
  | list => List String

instance (kind : KeyKind) : DecidableEq kind.Keys :=
  match kind with
  | text => inferInstanceAs (DecidableEq String)
  | unsigned => inferInstanceAs (DecidableEq UInt64)
  | signed => inferInstanceAs (DecidableEq Int64)
  | truth => inferInstanceAs (DecidableEq Bool)
  | character => inferInstanceAs (DecidableEq Char)
  | pair => inferInstanceAs (DecidableEq (String × Int64))
  | list => inferInstanceAs (DecidableEq (List String))

instance (kind : KeyKind) : JsonForm kind.Keys :=
  match kind with
  | text => inferInstanceAs (JsonForm String)
  | unsigned => inferInstanceAs (JsonForm UInt64)
  | signed => inferInstanceAs (JsonForm Int64)
  | truth => inferInstanceAs (JsonForm Bool)
  | character => inferInstanceAs (JsonForm Char)
  | pair => inferInstanceAs (JsonForm (String × Int64))
  | list => inferInstanceAs (JsonForm (List String))

instance (kind : KeyKind) : Outlined kind.Keys :=
  match kind with
  | text => inferInstanceAs (Outlined String)
  | unsigned => inferInstanceAs (Outlined UInt64)
  | signed => inferInstanceAs (Outlined Int64)
  | truth => inferInstanceAs (Outlined Bool)
  | character => inferInstanceAs (Outlined Char)
  | pair => inferInstanceAs (Outlined (String × Int64))
  | list => inferInstanceAs (Outlined (List String))

end KeyKind

end QueryRecorder
