import QueryRecorder.Proofs.Decoding
import QueryRecorder.Proofs.Forms
import QueryRecorder.Proofs.Sequence
import QueryRecorder.Proofs.Targets
import QueryRecorder.Event

/-!
The documents that are read as events, figures and targets. Each kind of record is told by its columns,
and each column by the values that are read as an operation, a count, a truth value, a text or a key.
-/

namespace QueryRecorder

section Events

variable {K : Type} [JsonForm K] [Outlined K]

def Event.columns : List (Column (Event K)) :=
  [.required "base_operation" base, .required "query_operation" query, .spared "key" key,
    .spared "error" error]

-- Of any two of the four fields either both are one, or setting the first leaves the second alone.
theorem Event.layout_columned : (layout : Layout (Event K)).Columned columns where
  distinct := by
    change ["base_operation", "query_operation", "key", "error"].Nodup
    decide
  order := by
    change ∀ a ∈ ["base_operation", "query_operation", "key", "error"],
      ∀ b ∈ ["base_operation", "query_operation", "key", "error"],
        a < b ↔ a.toUTF8.data.toList < b.toUTF8.data.toList
    decide
  fits := by
    refine .cons ?base (.cons ?query (.cons ?key (.cons ?error .nil)))
    case base | query =>
        apply Field.mandatory_fits _ _ _ _ (fun _ _ => rfl)
        simp only [columns, List.forall_mem_cons]
        refine ⟨?_, ?_, ?_, ?_, List.forall_mem_nil _⟩
        all_goals first | exact fun _ _ _ => rfl | exact fun apart => absurd rfl apart
    case key | error =>
        apply Field.optional_fits _ _ _ _ (fun _ _ => rfl)
        simp only [columns, List.forall_mem_cons]
        refine ⟨?_, ?_, ?_, ?_, List.forall_mem_nil _⟩
        all_goals first | exact fun _ _ _ => rfl | exact fun apart => absurd rfl apart
  blank := by
    simp only [columns, List.forall_mem_cons]
    refine ⟨?base, ?query, ?key, ?error, List.forall_mem_nil _⟩
    case base | query => exact fun _ absent => by cases absent
    case key | error => exact fun _ absent => Option.some.inj absent
  whole := by
    intro a b same
    simp only [columns, List.forall_mem_cons] at same
    obtain ⟨base, query, key, error, _⟩ := same
    cases a
    cases b
    simp only [Event.mk.injEq]
    exact ⟨base, query, key, error⟩

end Events

def Stats.columns : List (Column Stats) :=
  [.required "total" total, .required "creates" creates, .required "updates" updates,
    .required "deletes" deletes, .required "invalidates" invalidates, .required "errors" errors,
    .required "query_inserts" queryInserts, .required "query_updates" queryUpdates,
    .required "query_deletes" queryDeletes, .required "query_invalidates" queryInvalidates,
    .required "cqs_connected" connects, .required "cqs_disconnected" disconnects,
    .required "closed" closed, .required "region_cleared" regionCleared,
    .required "region_invalidated" regionInvalidated]

theorem Stats.columns_eq : columns =
    Counter.all.map (fun counter => .required counter.name fun stats => stats.count counter) ++
      Flag.all.map fun flag => .required flag.name fun stats => stats.flag flag := rfl

theorem Stats.mem_columns {column : Column Stats} (listed : column ∈ columns) :
    (∃ counter : Counter, column = .required counter.name fun stats => stats.count counter) ∨
      ∃ flag : Flag, column = .required flag.name fun stats => stats.flag flag := by
  rw [columns_eq, List.mem_append, List.mem_map, List.mem_map] at listed
  obtain ⟨counter, _, rfl⟩ | ⟨flag, _, rfl⟩ := listed
  · exact .inl ⟨counter, rfl⟩
  · exact .inr ⟨flag, rfl⟩

theorem Stats.layout_columned : layout.Columned columns where
  distinct := by decide
  order := by decide +kernel
  fits := by
    rw [columns_eq]
    apply List.rel_append
    · rw [List.forall₂_map_left_iff, List.forall₂_map_right_iff, List.forall₂_same]
      intro counter _
      apply Field.mandatory_fits
      · intro n stats
        rw [count_setCount, if_pos rfl]
      · intro other listed apart n stats
        obtain ⟨counter', rfl⟩ | ⟨flag, rfl⟩ := mem_columns listed
        · have different : counter' ≠ counter := fun same => apart (same ▸ rfl)
          simp only [Column.required, count_setCount, if_neg different]
        · exact flag_setCount stats counter n flag
    · rw [List.forall₂_map_left_iff, List.forall₂_map_right_iff, List.forall₂_same]
      intro flag _
      apply Field.mandatory_fits
      · intro value stats
        rw [flag_setFlag, if_pos rfl]
      · intro other listed apart value stats
        obtain ⟨counter, rfl⟩ | ⟨flag', rfl⟩ := mem_columns listed
        · exact count_setFlag stats flag value counter
        · have different : flag' ≠ flag := fun same => apart (same ▸ rfl)
          simp only [Column.required, flag_setFlag, if_neg different]
  blank := by
    intro column listed content absent
    obtain ⟨counter, rfl⟩ | ⟨flag, rfl⟩ := mem_columns listed
    · cases absent
    · cases absent
  whole := by
    intro a b same
    rw [columns_eq] at same
    apply Stats.ext_figures
    · exact fun counter => same _ (List.mem_append_left _ (List.mem_map_of_mem counter.mem_all))
    · exact fun flag => same _ (List.mem_append_right _ (List.mem_map_of_mem flag.mem_all))

def Expected.columns : List (Column Expected) :=
  [.required "creates" creates, .required "updates" updates, .required "deletes" deletes,
    .required "query_inserts" queryInserts, .required "query_updates" queryUpdates,
    .required "query_deletes" queryDeletes, .required "total" total]

theorem Expected.columns_eq : columns =
    Target.all.map fun target => .required target.counter.name fun expected => expected.goal target := rfl

theorem Expected.mem_columns {column : Column Expected} (listed : column ∈ columns) :
    ∃ target : Target, column = .required target.counter.name fun expected => expected.goal target := by
  obtain ⟨target, _, rfl⟩ := List.mem_map.mp (columns_eq ▸ listed)
  exact ⟨target, rfl⟩

theorem Expected.layout_columned : layout.Columned columns where
  distinct := by decide
  order := by decide +kernel
  fits := by
    rw [columns_eq, layout, List.forall₂_map_left_iff, List.forall₂_map_right_iff, List.forall₂_same]
    intro target _
    apply Field.mandatory_fits
    · intro n expected
      rw [goal_setGoal, if_pos rfl]
    · intro other listed apart n expected
      obtain ⟨target', rfl⟩ := mem_columns listed
      have different : target' ≠ target := fun same => apart (same ▸ rfl)
      simp only [Column.required, goal_setGoal, if_neg different]
  blank := by
    intro column listed content absent
    obtain ⟨target, rfl⟩ := mem_columns listed
    cases absent
  whole := by
    intro a b same
    rw [columns_eq] at same
    apply Expected.ext_goals
    exact fun target => same _ (List.mem_map_of_mem target.mem_all)

/-- Which values are read as an operation, a count, a truth value or a text, and how a value is read that
may be none. -/
structure PlainForms : Prop where
  operation : ∀ json (operation : Operation), ofJson json = .ok operation ↔
    json = .str operation.name ∨ json = .obj [(operation.name, .null)]
  count : ∀ json (n : UInt64), ofJson json = .ok n ↔ json = .int n.toNat
  truth : ∀ json (value : Bool), ofJson json = .ok value ↔ json = .bool value
  text : ∀ json (text : String), ofJson json = .ok text ↔ json = .str text
  option : ∀ (α : Type) [JsonForm α] json (value? : Option α), ofJson json = .ok value? ↔
    json = .null ∧ value? = none ∨ json ≠ .null ∧ ∃ value, ofJson json = .ok value ∧ value? = some value

theorem plainForms : PlainForms where
  operation := readOperation_iff
  count := readUInt64_iff
  truth := readBool_iff
  text := readString_iff
  option _ := readOption_iff

end QueryRecorder
