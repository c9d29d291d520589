import QueryRecorder.Proofs.Documents
import QueryRecorder.Proofs.Parsing

/-!
Data written as JSON text and read back. Operations, events with keys of any of the seven kinds, figures
and targets are read back from their text as they were, so no two of them have the same text.
-/

namespace QueryRecorder

/-- Data whose form a reader of texts leaves as it is, and that nests no deeper than so many levels. -/
class Shallow (levels : Nat) (α : Type) [JsonForm α] : Prop where
  regular (value : α) : Json.Regular levels (toJson value)

export Shallow (regular)

section Levels

variable {α β : Type} [JsonForm α] [JsonForm β] {levels : Nat}

instance : Shallow levels String := ⟨.str⟩

instance : Shallow levels Bool := ⟨.bool⟩

instance : Shallow levels Char := ⟨fun c => .str (String.singleton c)⟩

instance : Shallow levels Operation := ⟨fun operation => .str operation.name⟩

instance : Shallow levels UInt64 where
  regular n := by
    refine .int _ ?_
    have size := n.toNat_lt
    simp only [Json.fitsWord, Bool.and_eq_true, decide_eq_true_eq, Int64.toInt_minValue, UInt64.size]
    omega

instance : Shallow levels Int64 where
  regular n := by
    refine .int _ ?_
    have greatest := n.toInt_le
    rw [Int64.toInt_maxValue] at greatest
    simp only [Json.fitsWord, Bool.and_eq_true, decide_eq_true_eq, UInt64.size]
    exact ⟨n.minValue_le_toInt, by omega⟩

instance [Shallow levels α] : Shallow levels (Option α) where
  regular
    | none => .null
    | some value => regular value

instance [Shallow levels α] : Shallow (levels + 1) (List α) where
  regular values := by
    refine .arr _ fun item inside => ?_
    obtain ⟨value, _, rfl⟩ := List.mem_map.mp inside
    exact regular value

instance [Shallow levels α] [Shallow levels β] : Shallow (levels + 1) (α × β) where
  regular pair := by
    refine .arr _ ?_
    simp only [List.forall_mem_cons]
    exact ⟨regular pair.1, regular pair.2, List.forall_mem_nil _⟩

instance (kind : KeyKind) : Shallow (levels + 1) kind.Keys :=
  match kind with
  | .text => inferInstanceAs (Shallow _ String)
  | .unsigned => inferInstanceAs (Shallow _ UInt64)
  | .signed => inferInstanceAs (Shallow _ Int64)
  | .truth => inferInstanceAs (Shallow _ Bool)
  | .character => inferInstanceAs (Shallow _ Char)
  | .pair => inferInstanceAs (Shallow _ (String × Int64))
  | .list => inferInstanceAs (Shallow _ (List String))

end Levels

section Records

variable {R : Type} {levels : Nat}

/-- Every content is read back from its form, which is regular. -/
structure Column.Faithful (levels : Nat) (column : Column R) : Prop where
  back : ∀ content, column.decode (column.encode content) = .ok content
  regular : ∀ content, Json.Regular levels (column.encode content)

theorem Column.required_faithful {α : Type} [JsonForm α] [Told α] [Shallow levels α]
    (name : String) (get : R → α) : (required name get).Faithful levels :=
  ⟨ofJson_toJson (α := α), regular (α := α)⟩

theorem Column.spared_faithful {α : Type} [JsonForm α] [Solid α] [Shallow levels α]
    (name : String) (get : R → Option α) : (spared name get).Faithful levels :=
  ⟨ofJson_toJson (α := Option α), regular (α := Option α)⟩

namespace Layout.Columned

variable {layout : Layout R} {columns : List (Column R)} (columned : layout.Columned columns)
  (faithful : ∀ column ∈ columns, column.Faithful levels) (record : R)

include columned

theorem written_distinct :
    ((layout.fields.map fun field => (field.name, field.write record)).map (·.1)).Nodup := by
  rw [List.map_map]
  exact columned.names_eq ▸ columned.distinct

include faithful

/-- A record is read back from the object that it was written as. -/
theorem read_write : layout.read (layout.write record) = .ok record := by
  rw [write, (columned.object_decided _).ok_iff]
  intro column listed
  obtain ⟨field, declared, fits⟩ := columned.fieldOf column listed
  have present : column.member? (layout.fields.map fun field => (field.name, field.write record)) =
      some (column.encode (column.content record)) := by
    rw [Column.member?, Json.memberOf_iff (columned.written_distinct record), ← fits.name, ← fits.writes]
    exact List.mem_map_of_mem declared
  rw [present]
  exact (faithful column listed).back (column.content record)

theorem write_regular : Json.Regular (levels + 1) (layout.write record) := by
  refine .obj _ (columned.written_distinct record) fun member inside => ?_
  obtain ⟨field, declared, rfl⟩ := List.mem_map.mp inside
  obtain ⟨column, listed, fits⟩ := columned.columnOf field declared
  rw [fits.writes]
  exact (faithful column listed).regular (column.content record)

end Layout.Columned

theorem Stats.columns_faithful (levels : Nat) : ∀ column ∈ columns, column.Faithful levels := by
  intro column listed
  obtain ⟨counter, rfl⟩ | ⟨flag, rfl⟩ := mem_columns listed <;> exact Column.required_faithful _ _

theorem Expected.columns_faithful (levels : Nat) : ∀ column ∈ columns, column.Faithful levels := by
  intro column listed
  obtain ⟨target, rfl⟩ := mem_columns listed
  exact Column.required_faithful _ _

theorem Event.columns_faithful {K : Type} [JsonForm K] [Solid K] (levels : Nat) [Shallow levels K] :
    ∀ column ∈ columns (K := K), column.Faithful levels := by
  simp only [columns, List.forall_mem_cons]
  exact ⟨Column.required_faithful _ _, Column.required_faithful _ _, Column.spared_faithful _ _,
    Column.spared_faithful _ _, List.forall_mem_nil _⟩

instance : Told Stats := ⟨Stats.layout_columned.read_write (Stats.columns_faithful 0)⟩

instance : Told Expected := ⟨Expected.layout_columned.read_write (Expected.columns_faithful 0)⟩

instance (kind : KeyKind) : Told (Event kind.Keys) :=
  ⟨Event.layout_columned.read_write (Event.columns_faithful 1)⟩

instance : Shallow (levels + 1) Stats :=
  ⟨Stats.layout_columned.write_regular (Stats.columns_faithful levels)⟩

instance : Shallow (levels + 1) Expected :=
  ⟨Expected.layout_columned.write_regular (Expected.columns_faithful levels)⟩

instance (kind : KeyKind) : Shallow (levels + 2) (Event kind.Keys) :=
  ⟨Event.layout_columned.write_regular (Event.columns_faithful (levels + 1))⟩

end Records

/-- What a text is read as: nothing when it is no JSON text. -/
def readFrom (α : Type) [JsonForm α] (text : String) : Option (Except Fault α) :=
  (Json.parse? text).map ofJson

/-- Data that is read back from its text as it was, no two having the same text. -/
structure RoundTrips (α : Type) [JsonForm α] : Prop where
  back : ∀ value : α, readFrom α (toJson value).text = some (.ok value)
  apart : ∀ a b : α, a ≠ b → (toJson a).text ≠ (toJson b).text

theorem Told.roundTrips (α : Type) [JsonForm α] [Told α] [Shallow Json.deepest α] : RoundTrips α where
  back value := by
    rw [readFrom, (regular value).parse_text, Option.map_some, ofJson_toJson]
  apart a b different same := by
    have parsed := (regular a).parse_text
    rw [same, (regular b).parse_text, Option.some.injEq] at parsed
    exact different (toJson_injective parsed.symm)

/-- Every serialised value is read back from its text as it was; in particular a key or an error text
that is there is read as one that is there, be it empty. -/
theorem texts_read_back :
    RoundTrips Operation ∧ RoundTrips Stats ∧ RoundTrips Expected ∧
    ∀ kind : KeyKind, RoundTrips (Event kind.Keys) ∧
      ∀ event : Event kind.Keys, ∃ read,
        readFrom (Event kind.Keys) (toJson event).text = some (.ok read) ∧
        read.key.isSome = event.key.isSome ∧ read.error.isSome = event.error.isSome := by
  refine ⟨Told.roundTrips _, Told.roundTrips _, Told.roundTrips _, fun kind => ⟨Told.roundTrips _, ?_⟩⟩
  intro event
  exact ⟨event, (Told.roundTrips _).back event, rfl, rfl⟩

end QueryRecorder
