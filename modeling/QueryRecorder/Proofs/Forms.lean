import QueryRecorder.Key

/-!
Data that is read back from its JSON form as it was. For an option the form of what may be there must
not be the form of nothing. Words, truth values and texts are read from no other form, operations from
one more.
-/

namespace QueryRecorder

/-- Data that is read back from its JSON form as it was. -/
class Told (α : Type) [JsonForm α] : Prop where
  ofJson_toJson (value : α) : ofJson (toJson value) = .ok value

/-- Such data that is never written as nothing. -/
class Solid (α : Type) [JsonForm α] : Prop extends Told α where
  toJson_ne_null (value : α) : toJson value ≠ .null

export Told (ofJson_toJson)

export Solid (toJson_ne_null)

theorem toJson_injective {α : Type} [JsonForm α] [Told α] {a b : α} (same : toJson a = toJson b) :
    a = b := by
  have read := ofJson_toJson a
  rw [same, ofJson_toJson] at read
  cases read
  rfl

section Forms

variable {α β : Type} [JsonForm α] [JsonForm β]

instance : Solid String where
  ofJson_toJson _ := rfl
  toJson_ne_null _ := Json.noConfusion

instance : Solid Bool where
  ofJson_toJson _ := rfl
  toJson_ne_null _ := Json.noConfusion

instance : Solid UInt64 where
  ofJson_toJson n := by
    change readUInt64 (.int n.toNat) = .ok n
    rw [readUInt64, if_pos ⟨Int.natCast_nonneg _, Int.ofNat_lt.mpr n.toNat_lt⟩, Int.toNat_natCast,
      UInt64.ofNat_toNat]
  toJson_ne_null _ := Json.noConfusion

instance : Solid Int64 where
  ofJson_toJson n := by
    change readInt64 (.int n.toInt) = .ok n
    rw [readInt64, if_pos ⟨n.minValue_le_toInt, n.toInt_le⟩, Int64.ofInt_toInt]
  toJson_ne_null _ := Json.noConfusion

instance : Solid Char where
  ofJson_toJson c := by
    change readChar (.str (String.singleton c)) = .ok c
    simp [readChar]
  toJson_ne_null _ := Json.noConfusion

instance : Solid Operation where
  ofJson_toJson operation := by
    change readVariant operation.name = .ok operation
    rw [readVariant, Operation.ofName_name]
  toJson_ne_null _ := Json.noConfusion

instance [Told α] [Told β] : Solid (α × β) where
  ofJson_toJson pair := by
    change readPair (.arr [toJson pair.1, toJson pair.2]) = .ok pair
    simp only [readPair, ofJson_toJson]
    rfl
  toJson_ne_null _ := Json.noConfusion

theorem readEach_map [Told α] (values : List α) : readEach (values.map toJson) = .ok values := by
  induction values with
  | nil => rfl
  | cons value rest ih =>
      simp only [List.map_cons, readEach, ofJson_toJson, ih]
      rfl

instance [Told α] : Solid (List α) where
  ofJson_toJson := readEach_map
  toJson_ne_null _ := Json.noConfusion

instance [Solid α] : Told (Option α) where
  ofJson_toJson value := by
    cases value with
    | none => rfl
    | some value =>
        change readOption (toJson value) = .ok (some value)
        have solid := toJson_ne_null value
        rw [readOption, ofJson_toJson]
        · rfl
        · exact solid

instance (kind : KeyKind) : Solid kind.Keys :=
  match kind with
  | .text => inferInstanceAs (Solid String)
  | .unsigned => inferInstanceAs (Solid UInt64)
  | .signed => inferInstanceAs (Solid Int64)
  | .truth => inferInstanceAs (Solid Bool)
  | .character => inferInstanceAs (Solid Char)
  | .pair => inferInstanceAs (Solid (String × Int64))
  | .list => inferInstanceAs (Solid (List String))

end Forms

theorem readVariant_iff (name : String) (operation : Operation) :
    readVariant name = .ok operation ↔ name = operation.name := by
  constructor
  · intro read
    cases found : Operation.ofName? name with
    | none => simp [readVariant, found] at read
    | some other =>
        have named : other.name = name := by simpa using List.find?_some found
        simp only [readVariant, found, Except.ok.injEq] at read
        rw [← named, read]
  · rintro rfl
    rw [readVariant, Operation.ofName_name]

theorem readOperation_iff (json : Json) (operation : Operation) :
    readOperation json = .ok operation ↔
      json = .str operation.name ∨ json = .obj [(operation.name, .null)] := by
  constructor
  · intro read
    cases json with
    | str name => exact .inl (congrArg Json.str ((readVariant_iff name operation).mp read))
    | obj members =>
        match members, read with
        | [], read => cases read
        | _ :: _ :: _, read => cases read
        | [(name, value)], read =>
            cases named : readVariant name with
            | error fault =>
                rw [readOperation, named] at read
                cases read
            | ok other =>
                rw [readOperation, named] at read
                cases value <;> cases read
                rw [(readVariant_iff name operation).mp named]
                exact .inr rfl
    | _ => cases read
  · rintro (rfl | rfl)
    · exact ofJson_toJson operation
    · rw [readOperation, (readVariant_iff _ _).mpr rfl]
      rfl

theorem readUInt64_iff (json : Json) (n : UInt64) : readUInt64 json = .ok n ↔ json = .int n.toNat := by
  constructor
  · intro read
    cases json with
    | int value =>
        by_cases inRange : 0 ≤ value ∧ value < UInt64.size
        · rw [readUInt64, if_pos inRange] at read
          cases read
          have small : value.toNat < UInt64.size := by omega
          rw [UInt64.toNat_ofNat_of_lt' small, Int.toNat_of_nonneg inRange.1]
        · rw [readUInt64, if_neg inRange] at read
          cases read
    | _ => cases read
  · rintro rfl
    exact ofJson_toJson n

theorem readBool_iff (json : Json) (value : Bool) : readBool json = .ok value ↔ json = .bool value := by
  cases json <;> simp [readBool, Fault.wrongType]

theorem readString_iff (json : Json) (text : String) : readString json = .ok text ↔ json = .str text := by
  cases json <;> simp [readString, Fault.wrongType]

theorem readOption_iff {α : Type} [JsonForm α] (json : Json) (value? : Option α) :
    readOption json = .ok value? ↔ json = .null ∧ value? = none ∨
      json ≠ .null ∧ ∃ value, ofJson json = .ok value ∧ value? = some value := by
  by_cases empty : json = .null
  · subst empty
    simp [readOption, eq_comm]
  · have solid : readOption json = (ofJson json).map (some : α → Option α) := by
      cases json with
      | null => exact absurd rfl empty
      | _ => rfl
    rw [solid]
    cases (ofJson json : Except Fault α) with
    | error fault => simp [Except.map, empty]
    | ok value => simp [Except.map, empty, eq_comm]

end QueryRecorder
