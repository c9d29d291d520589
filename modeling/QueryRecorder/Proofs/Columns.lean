import QueryRecorder.Json.Layout
import Mathlib.Data.List.Find
import Mathlib.Data.List.Forall2
import Mathlib.Data.List.Nodup

/-!
The columns of a record. A column tells of a field what decides about it: its name, how its content is
written and read, what it holds when no member names it, and what its content is in a record. The columns
tell which values are read as a record, what they are read as, and which fault is reported for the others;
where every field of a layout is as its column says, a record is decoded so.
-/

namespace QueryRecorder

structure Column (R : Type) where
  name : String
  Content : Type
  encode : Content → Json
  decode : Json → Except Fault Content
  /-- What the field holds when no member names it, unless it is required. -/
  absent? : Option Content
  content : R → Content

variable {R : Type}

namespace Column

def required {α : Type} [JsonForm α] (name : String) (get : R → α) : Column R :=
  ⟨name, α, toJson, ofJson, none, get⟩

def spared {α : Type} [JsonForm α] (name : String) (get : R → Option α) : Column R :=
  ⟨name, Option α, toJson, ofJson, some none, get⟩

def member? (column : Column R) (members : List (String × Json)) : Option Json :=
  Json.memberOf? column.name members

def Reads (column : Column R) (json : Json) : Prop := ∃ content, column.decode json = .ok content

-- The member that names the field, if there is one, can be read.
def Readable (column : Column R) (members : List (String × Json)) : Prop :=
  ∀ json, column.member? members = some json → column.Reads json

/-- Names are compared by the bytes they are encoded in. -/
def Precedes (first second : Column R) : Prop :=
  first.name.toUTF8.data.toList < second.name.toUTF8.data.toList

def lacks (column : Column R) (members : List (String × Json)) : Bool :=
  column.absent?.isNone && (column.member? members).isNone

/-- The record holds in the field what is read from the value, or what goes without one. -/
def Takes (column : Column R) (record : R) : Option Json → Prop
  | some json => column.decode json = .ok (column.content record)
  | none => column.absent? = some (column.content record)

def Accepts (column : Column R) : Option Json → Prop
  | some json => column.Reads json
  | none => column.absent?.isSome = true

/-- What a record holds in the field after the members were read into it. -/
def Updated (column : Column R) (members : List (String × Json)) (before after : R) : Prop :=
  match column.member? members with
  | some json => column.decode json = .ok (column.content after)
  | none => column.content after = column.content before

theorem Updated.congr {column : Column R} {members : List (String × Json)} {before start last after : R}
    (updated : column.Updated members start last) (first : column.content start = column.content before)
    (second : column.content after = column.content last) : column.Updated members before after := by
  unfold Updated at updated ⊢
  rwa [second, ← first]

theorem Takes.accepts {column : Column R} {record : R} {value : Option Json}
    (takes : column.Takes record value) : column.Accepts value := by
  cases value with
  | some json => exact ⟨_, takes⟩
  | none =>
      rw [Accepts, show column.absent? = _ from takes]
      rfl

theorem Takes.content_eq {column : Column R} {a b : R} {value : Option Json}
    (first : column.Takes a value) (second : column.Takes b value) :
    column.content a = column.content b := by
  cases value with
  | some json => exact Except.ok.inj (first.symm.trans second)
  | none => exact Option.some.inj (first.symm.trans second)

theorem accepts_iff (column : Column R) (members : List (String × Json)) :
    column.Accepts (column.member? members) ↔
      column.Readable members ∧ column.lacks members = false := by
  cases value : column.member? members with
  | some json => simp [Accepts, Readable, lacks, value]
  | none => simp [Accepts, Readable, lacks, value]

theorem Updated.takes {column : Column R} {members : List (String × Json)} {blank last : R}
    (updated : column.Updated members blank last)
    (starts : ∀ content, column.absent? = some content → column.content blank = content)
    (accepts : column.Accepts (column.member? members)) :
    column.Takes last (column.member? members) := by
  unfold Updated at updated
  cases value : column.member? members with
  | some json =>
      rw [value] at updated
      exact updated
  | none =>
      rw [value] at updated accepts
      obtain ⟨content, absent⟩ := Option.isSome_iff_exists.mp accepts
      rw [Takes, updated, starts content absent, absent]

theorem reads_or (column : Column R) (json : Json) :
    column.Reads json ∨ ∃ fault, column.decode json = .error fault := by
  cases read : column.decode json with
  | ok content => exact .inl ⟨content, read⟩
  | error fault => exact .inr ⟨fault, rfl⟩

end Column

section Verdicts

variable (columns : List (Column R)) (members : List (String × Json)) (items : List Json)

def MembersRead : Prop := ∀ column ∈ columns, column.Readable members

def ElementsRead : Prop := ∀ pair ∈ columns.zip items, pair.1.Reads pair.2

/-- Of the members that cannot be read the one whose name comes first is at fault. -/
def WrongMember (fault : Fault) : Prop :=
  ∃ column ∈ columns, ∃ json, column.member? members = some json ∧ column.decode json = .error fault ∧
    ∀ other ∈ columns, other.Precedes column → other.Readable members

/-- All members can be read, and of the required fields that none names the one declared first is at
fault. -/
def MissingMember (fault : Fault) : Prop :=
  MembersRead columns members ∧ ∃ before column after, columns = before ++ column :: after ∧
    column.lacks members = true ∧ (∀ earlier ∈ before, earlier.lacks members = false) ∧
    fault = .missingField column.name

/-- The first element that cannot be read is at fault. -/
def WrongElement (fault : Fault) : Prop :=
  ∃ before pair after, columns.zip items = before ++ pair :: after ∧
    pair.1.decode pair.2 = .error fault ∧ ∀ earlier ∈ before, earlier.1.Reads earlier.2

/-- All elements that have a field can be read, but there are too few or too many. -/
def WrongLength (title : String) (fault : Fault) : Prop :=
  ElementsRead columns items ∧
    (items.length < columns.length ∧ fault = .invalidLength items.length
        ("struct " ++ title ++ " with " ++ toString columns.length ++ " elements") ∨
      columns.length < items.length ∧ fault = .invalidLength items.length "fewer elements in array")

end Verdicts

/-- How records are decoded that have one field for each column, in this order. Objects and arrays are each
told by what they are read as, whether they are read, and why not. Members are named apart in an object, and
then their order does not matter; nor do those that no column names. -/
structure Decodes (read : Json → Except Fault R) (title : String) (columns : List (Column R)) : Prop where
  object : ∀ members record, read (.obj members) = .ok record ↔
    ∀ column ∈ columns, column.Takes record (column.member? members)
  objectAccepted : ∀ members, (∃ record, read (.obj members) = .ok record) ↔
    ∀ column ∈ columns, column.Accepts (column.member? members)
  objectRefused : ∀ members fault, read (.obj members) = .error fault ↔
    WrongMember columns members fault ∨ MissingMember columns members fault
  array : ∀ items record, read (.arr items) = .ok record ↔
    items.length = columns.length ∧ ∀ pair ∈ columns.zip items, pair.1.Takes record (some pair.2)
  arrayAccepted : ∀ items, (∃ record, read (.arr items) = .ok record) ↔
    items.length = columns.length ∧ ElementsRead columns items
  arrayRefused : ∀ items fault, read (.arr items) = .error fault ↔
    WrongElement columns items fault ∨ WrongLength columns items title fault
  neither : ∀ json, (∀ members, json ≠ .obj members) → (∀ items, json ≠ .arr items) →
    read json = .error (.invalidType json.glimpse ("struct " ++ title))
  unordered : ∀ members others, (members.map (·.1)).Nodup → members.Perm others →
    read (.obj members) = read (.obj others)
  unknown : ∀ members, read (.obj (members.filter fun member =>
    (columns.map Column.name).contains member.1)) = read (.obj members)
  spellings : ∀ members items, items.length = columns.length →
    (∀ pair ∈ columns.zip items, pair.1.member? members = some pair.2) →
    ∀ record, read (.obj members) = .ok record ↔ read (.arr items) = .ok record

/-- A value is refused for a reason, or it is accepted and one record takes what is read. -/
structure Decided (result : Except Fault R) (why : Fault → Prop) (takes : R → Prop) (accepts : Prop) :
    Prop where
  total : accepts ∨ ∃ fault, why fault
  refused : ∀ fault, why fault → result = .error fault
  accepted : accepts → ∃ record, result = .ok record ∧ takes record
  taken : ∀ record, takes record → accepts
  unique : ∀ a b, takes a → takes b → a = b

namespace Decided

variable {result : Except Fault R} {why : Fault → Prop} {takes : R → Prop} {accepts : Prop}
  (decided : Decided result why takes accepts)

include decided

theorem accepts_iff : (∃ record, result = .ok record) ↔ accepts := by
  constructor
  · rintro ⟨record, read⟩
    obtain fits | ⟨fault, reason⟩ := decided.total
    · exact fits
    · cases (decided.refused fault reason).symm.trans read
  · intro fits
    obtain ⟨record, read, _⟩ := decided.accepted fits
    exact ⟨record, read⟩

theorem ok_iff (record : R) : result = .ok record ↔ takes record := by
  constructor
  · intro read
    obtain ⟨other, accepted, holds⟩ := decided.accepted (decided.accepts_iff.mp ⟨record, read⟩)
    cases accepted.symm.trans read
    exact holds
  · intro holds
    obtain ⟨other, accepted, alike⟩ := decided.accepted (decided.taken record holds)
    rw [decided.unique record other holds alike]
    exact accepted

theorem error_iff (fault : Fault) : result = .error fault ↔ why fault := by
  constructor
  · intro refused
    obtain fits | ⟨other, reason⟩ := decided.total
    · obtain ⟨record, accepted, _⟩ := decided.accepted fits
      cases accepted.symm.trans refused
    · cases (decided.refused other reason).symm.trans refused
      exact reason
  · exact decided.refused fault

end Decided

/-- The field is written and read as its column says, and has a place of its own in the record. -/
structure Field.Fits (columns : List (Column R)) (field : Field R) (column : Column R) : Prop where
  name : field.name = column.name
  required : field.required = column.absent?.isNone
  writes : ∀ record, field.write record = column.encode (column.content record)
  reads : ∃ put : column.Content → R → R,
    (∀ json record, field.read json record =
      (column.decode json).map fun content => put content record) ∧
    (∀ content record, column.content (put content record) = content) ∧
    ∀ other ∈ columns, other.name ≠ column.name →
      ∀ content record, other.content (put content record) = other.content record

/-- Every field of the layout is read as its column says, and the columns together tell the record. -/
structure Layout.Columned (layout : Layout R) (columns : List (Column R)) : Prop where
  distinct : (columns.map Column.name).Nodup
  order : ∀ a ∈ columns.map Column.name, ∀ b ∈ columns.map Column.name,
    a < b ↔ a.toUTF8.data.toList < b.toUTF8.data.toList
  fits : List.Forall₂ (Field.Fits columns) layout.fields columns
  blank : ∀ column ∈ columns, ∀ content, column.absent? = some content →
    column.content layout.blank = content
  whole : ∀ a b, (∀ column ∈ columns, column.content a = column.content b) → a = b

namespace Json

-- With names told apart it does not matter that of several members the last counts.
theorem memberOf_iff {members : List (String × Json)} (distinct : (members.map (·.1)).Nodup)
    (name : String) (json : Json) : memberOf? name members = some json ↔ (name, json) ∈ members := by
  have found (member : String × Json) (first : members.reverse.find? (fun member => member.1 == name) =
      some member) : member ∈ members ∧ member.1 = name :=
    ⟨List.mem_reverse.mp (List.mem_of_find?_eq_some first), by simpa using List.find?_some first⟩
  constructor
  · intro present
    obtain ⟨member, first, rfl⟩ := Option.map_eq_some_iff.mp present
    obtain ⟨inside, rfl⟩ := found member first
    exact inside
  · intro inside
    cases first : members.reverse.find? (fun member => member.1 == name) with
    | none => simpa using List.find?_eq_none.mp first (name, json) (List.mem_reverse.mpr inside)
    | some member =>
        obtain ⟨other, named⟩ := found member first
        have same : member = (name, json) := List.inj_on_of_nodup_map distinct other inside named
        rw [memberOf?, first, same]
        rfl

theorem memberOf_perm {members others : List (String × Json)} (name : String)
    (distinct : (members.map (·.1)).Nodup) (order : members.Perm others) :
    memberOf? name members = memberOf? name others := by
  have still : (others.map (·.1)).Nodup := (order.map _).nodup_iff.mp distinct
  ext json
  rw [memberOf_iff distinct, memberOf_iff still, order.mem_iff]

theorem memberOf_filter {names : List String} {name : String} (known : name ∈ names)
    (members : List (String × Json)) :
    memberOf? name (members.filter fun member => names.contains member.1) = memberOf? name members := by
  rw [memberOf?, memberOf?, ← List.filter_reverse, List.find?_filter]
  congr 1
  apply List.find?_congr
  intro member _
  by_cases same : member.1 = name
  · simp [same, known]
  · simp [same]

end Json

-- Either all of a list is as it should be, or there is a first that is not.
theorem all_or_first {α : Type*} (holds : α → Prop) (items : List α) : (∀ item ∈ items, holds item) ∨
    ∃ before item after, items = before ++ item :: after ∧ ¬ holds item ∧
      ∀ earlier ∈ before, holds earlier := by
  induction items with
  | nil => exact .inl (by simp)
  | cons first rest ih =>
      by_cases good : holds first
      · obtain all | ⟨before, item, after, rfl, bad, earlier⟩ := ih
        · exact .inl (List.forall_mem_cons.mpr ⟨good, all⟩)
        · exact .inr ⟨first :: before, item, after, rfl, bad, List.forall_mem_cons.mpr ⟨good, earlier⟩⟩
      · exact .inr ⟨[], first, rest, rfl, good, by simp⟩

theorem accepted_or_missing {columns : List (Column R)} {members : List (String × Json)}
    (readable : MembersRead columns members) :
    (∀ column ∈ columns, column.Accepts (column.member? members)) ∨
      ∃ fault, MissingMember columns members fault := by
  obtain all | ⟨before, column, after, split, bad, earlier⟩ :=
    all_or_first (fun column : Column R => column.lacks members = false) columns
  · left
    intro column listed
    rw [column.accepts_iff]
    exact ⟨readable column listed, all column listed⟩
  · exact .inr ⟨_, readable, before, column, after, split, Bool.of_not_eq_false bad, earlier, rfl⟩

theorem elementsRead_or_wrong (columns : List (Column R)) (items : List Json) :
    ElementsRead columns items ∨ ∃ fault, WrongElement columns items fault := by
  obtain reads | ⟨before, pair, after, split, bad, earlier⟩ :=
    all_or_first (fun pair : Column R × Json => pair.1.Reads pair.2) (columns.zip items)
  · exact .inl reads
  · obtain good | ⟨fault, fails⟩ := pair.1.reads_or pair.2
    · exact absurd good bad
    · exact .inr ⟨fault, before, pair, after, split, fails, earlier⟩

theorem listed_pair {columns : List (Column R)} {items : List Json}
    (even : items.length = columns.length) (column : Column R) (listed : column ∈ columns) :
    ∃ json, (column, json) ∈ columns.zip items := by
  have first : column ∈ (columns.zip items).map Prod.fst := by
    rwa [List.map_fst_zip (Nat.le_of_eq even.symm)]
  obtain ⟨⟨_, json⟩, member, rfl⟩ := List.mem_map.mp first
  exact ⟨json, member⟩

section Fields

variable {α : Type} [JsonForm α] [Outlined α] (columns : List (Column R)) (name : String)

theorem Field.mandatory_fits (get : R → α) (set : α → R → R)
    (sets : ∀ value record, get (set value record) = value)
    (spares : ∀ other ∈ columns, other.name ≠ name →
      ∀ value record, other.content (set value record) = other.content record) :
    (mandatory name get set).Fits columns (.required name get) :=
  ⟨rfl, rfl, fun _ => rfl, set, fun _ _ => rfl, sets, spares⟩

theorem Field.optional_fits (get : R → Option α) (set : Option α → R → R)
    (sets : ∀ value record, get (set value record) = value)
    (spares : ∀ other ∈ columns, other.name ≠ name →
      ∀ value record, other.content (set value record) = other.content record) :
    (optional name get set).Fits columns (.spared name get) :=
  ⟨rfl, rfl, fun _ => rfl, set, fun _ _ => rfl, sets, spares⟩

end Fields

namespace Field.Fits

variable {columns : List (Column R)} {field : Field R} {column : Column R}
  (fits : field.Fits columns column)

include fits

theorem read_error {json : Json} {fault : Fault} (fails : column.decode json = .error fault) (record : R) :
    field.read json record = .error fault := by
  obtain ⟨put, read, _⟩ := fits.reads
  rw [read, fails]
  rfl

theorem read_ok {json : Json} (reads : column.Reads json) (record : R) :
    ∃ next, field.read json record = .ok next ∧ column.Takes next (some json) ∧
      ∀ other ∈ columns, other.name ≠ column.name → other.content next = other.content record := by
  obtain ⟨content, decoded⟩ := reads
  obtain ⟨put, read, own, spares⟩ := fits.reads
  refine ⟨put content record, ?_, ?_, fun other member apart => spares other member apart content record⟩
  · rw [read, decoded]
    rfl
  · rw [Column.Takes, own, decoded]

theorem readMember_none {members : List (String × Json)} (missing : column.member? members = none)
    (record : R) : Layout.readMember members record field = .ok record := by
  rw [Layout.readMember, fits.name, show Json.memberOf? column.name members = none from missing]

theorem readMember_some {members : List (String × Json)} {json : Json}
    (present : column.member? members = some json) (record : R) :
    Layout.readMember members record field = field.read json record := by
  rw [Layout.readMember, fits.name, show Json.memberOf? column.name members = some json from present]

theorem readMember_ok {members : List (String × Json)} (readable : column.Readable members) (record : R) :
    ∃ next, Layout.readMember members record field = .ok next ∧ column.Updated members record next ∧
      ∀ other ∈ columns, other.name ≠ column.name → other.content next = other.content record := by
  cases value : column.member? members with
  | none =>
      refine ⟨record, fits.readMember_none value record, ?_, fun _ _ _ => rfl⟩
      rw [Column.Updated, value]
  | some json =>
      obtain ⟨next, read, takes, kept⟩ := fits.read_ok (readable json value) record
      refine ⟨next, (fits.readMember_some value record).trans read, ?_, kept⟩
      rw [Column.Updated, value]
      exact takes

end Field.Fits

-- Which field is missing is told by the columns.
theorem Field.Fits.missing_eq {columns listed : List (Column R)} {fields : List (Field R)}
    (fits : List.Forall₂ (Field.Fits columns) fields listed) (members : List (String × Json)) :
    (fields.find? fun field => field.required && (Json.memberOf? field.name members).isNone).map
        Field.name = (listed.find? fun column => column.lacks members).map Column.name := by
  induction fits with
  | nil => rfl
  | @cons field column fields listed here _ ih =>
      have same : (field.required && (Json.memberOf? field.name members).isNone) =
          column.lacks members := by
        rw [here.required, here.name]
        rfl
      rw [List.find?_cons, List.find?_cons, same]
      cases column.lacks members
      · exact ih
      · exact congrArg some here.name

end QueryRecorder
