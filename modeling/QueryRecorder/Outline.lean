import QueryRecorder.Operation
import QueryRecorder.Text.Quoted

/-!
Outlines: values laid out for a reader. An outline is a word, a row of items between two brackets,
or a record of named fields, and it is written either on one line or as an indented block. A record
that leaves fields out closes with two dots.
-/

namespace QueryRecorder

inductive Outline
  | word (text : String)
  | row (opening : String) (items : List Outline) (closing : String)
  | record (name : String) (fields : List (String × Outline)) (whole : Bool)

namespace Outline

/-- How a record ends on one line, after its last field. -/
def lineEnd (whole : Bool) : String := if whole then " \x7d" else ", .. \x7d"

mutual

def line : Outline → String
  | word text => text
  | row opening items closing => opening ++ lineItems items ++ closing
  | record name [] true => name
  | record name [] false => name ++ " \x7b .. \x7d"
  | record name (field :: rest) whole =>
      name ++ " \x7b " ++ lineFields (field :: rest) ++ lineEnd whole

def lineItems : List Outline → String
  | [] => ""
  | [item] => line item
  | item :: rest => line item ++ ", " ++ lineItems rest

def lineFields : List (String × Outline) → String
  | [] => ""
  | [(name, value)] => name ++ ": " ++ line value
  | (name, value) :: rest => name ++ ": " ++ line value ++ ", " ++ lineFields rest

end

def indent (depth : Nat) : String := String.ofList (List.replicate (4 * depth) ' ')

/-- How a record ends as a block, after its last field. -/
def blockEnd (depth : Nat) (whole : Bool) : String :=
  if whole then indent depth ++ "\x7d" else indent (depth + 1) ++ "..\n" ++ indent depth ++ "\x7d"

mutual

def blockAt : Nat → Outline → String
  | _, word text => text
  | _, row opening [] closing => opening ++ closing
  | depth, row opening (item :: rest) closing =>
      opening ++ "\n" ++ blockItems (depth + 1) (item :: rest) ++ indent depth ++ closing
  | _, record name [] true => name
  | _, record name [] false => name ++ " \x7b .. \x7d"
  | depth, record name (field :: rest) whole =>
      name ++ " \x7b\n" ++ blockFields (depth + 1) (field :: rest) ++ blockEnd depth whole

def blockItems : Nat → List Outline → String
  | _, [] => ""
  | depth, item :: rest => indent depth ++ blockAt depth item ++ ",\n" ++ blockItems depth rest

def blockFields : Nat → List (String × Outline) → String
  | _, [] => ""
  | depth, (name, value) :: rest =>
      indent depth ++ name ++ ": " ++ blockAt depth value ++ ",\n" ++ blockFields depth rest

end

def block (outline : Outline) : String := blockAt 0 outline

end Outline

class Outlined (α : Type) where
  outline : α → Outline

export Outlined (outline)

def shown {α : Type} [Outlined α] (value : α) : String := (outline value).line

instance : Outlined String := ⟨fun text => .word (Text.quoted text)⟩

instance : Outlined Char := ⟨fun c => .word (Text.quotedChar c)⟩

instance : Outlined UInt64 := ⟨fun n => .word (toString n.toNat)⟩

instance : Outlined Int64 := ⟨fun n => .word (toString n.toInt)⟩

instance : Outlined Bool := ⟨fun b => .word (if b then "true" else "false")⟩

instance : Outlined Operation := ⟨fun operation => .word operation.name⟩

instance {α : Type} [Outlined α] : Outlined (Option α) where
  outline
    | none => .word "None"
    | some value => .row "Some(" [outline value] ")"

instance {α β : Type} [Outlined α] [Outlined β] : Outlined (α × β) where
  outline pair := .row "(" [outline pair.1, outline pair.2] ")"

instance {α : Type} [Outlined α] : Outlined (List α) where
  outline values := .row "[" (values.map outline) "]"

end QueryRecorder
