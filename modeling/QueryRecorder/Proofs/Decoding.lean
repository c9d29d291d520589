import QueryRecorder.Proofs.Columns

/-!
Decoding of records. The fields are read one after another, those of an object in the order of their
names and those of an array in their own order: the first that cannot be read decides, and when all can be
read each holds what its column takes.
-/

namespace QueryRecorder

variable {R : Type}

namespace Layout

-- What is read of an object depends on nothing but the members that the fields are named by.
theorem readMembers_congr (layout : Layout R) (members others : List (String × Json))
    (same : ∀ field ∈ layout.fields, Json.memberOf? field.name members =
      Json.memberOf? field.name others) :
    layout.readMembers members = layout.readMembers others := by
  have order := layout.byName_perm
  have folds (fields : List (Field R)) (declared : ∀ field ∈ fields, field ∈ layout.fields) (record : R) :
      fields.foldlM (readMember members) record = fields.foldlM (readMember others) record := by
    induction fields generalizing record with
    | nil => rfl
    | cons field rest ih =>
        have step : readMember members record field = readMember others record field := by
          rw [readMember, readMember, same field (declared field List.mem_cons_self)]
        rw [List.foldlM_cons, List.foldlM_cons, step]
        exact bind_congr fun next =>
          ih (fun other member => declared other (List.mem_cons_of_mem field member)) next
  have missing : layout.missing? members = layout.missing? others :=
    List.find?_congr fun field declared => by rw [same field declared]
  rw [readMembers, readMembers, folds _ fun field member => order.mem_iff.mp member, missing]

namespace Columned

variable {layout : Layout R} {columns : List (Column R)} (columned : layout.Columned columns)

include columned

theorem fieldOf (column : Column R) (listed : column ∈ columns) :
    ∃ field ∈ layout.fields, field.Fits columns column := by
  obtain ⟨i, bound, rfl⟩ := List.getElem_of_mem listed
  have short : i < layout.fields.length := columned.fits.length_eq ▸ bound
  exact ⟨_, List.getElem_mem short, columned.fits.get short bound⟩

theorem columnOf (field : Field R) (declared : field ∈ layout.fields) :
    ∃ column ∈ columns, field.Fits columns column := by
  obtain ⟨i, bound, rfl⟩ := List.getElem_of_mem declared
  have short : i < columns.length := columned.fits.length_eq ▸ bound
  exact ⟨_, List.getElem_mem short, columned.fits.get bound short⟩

theorem named_alike {a b : Column R} (first : a ∈ columns) (second : b ∈ columns)
    (same : a.name = b.name) : a = b :=
  List.inj_on_of_nodup_map columned.distinct first second same

theorem precedes_iff {a b : Column R} (first : a ∈ columns) (second : b ∈ columns) :
    a.Precedes b ↔ a.name < b.name :=
  (columned.order _ (List.mem_map_of_mem first) _ (List.mem_map_of_mem second)).symm

theorem names_eq : layout.fields.map Field.name = columns.map Column.name := by
  rw [← List.forall₂_eq_eq_eq, List.forall₂_map_left_iff, List.forall₂_map_right_iff]
  exact columned.fits.imp fun _ _ fits => fits.name

-- The fields are read one after another, in any order: those that were read hold what the members say, the
-- others what they held before. A field read later has another name and so spares those read before it.
theorem readFields (members : List (String × Json)) (fields : List (Field R))
    (declared : ∀ field ∈ fields, field ∈ layout.fields) (distinct : (fields.map Field.name).Nodup)
    (readable : ∀ column ∈ columns, column.name ∈ fields.map Field.name → column.Readable members)
    (start : R) : ∃ last, fields.foldlM (readMember members) start = .ok last ∧
      ∀ column ∈ columns,
        (column.name ∈ fields.map Field.name → column.Updated members start last) ∧
        (column.name ∉ fields.map Field.name → column.content last = column.content start) := by
  induction fields generalizing start with
  | nil => exact ⟨start, rfl, fun column _ => ⟨by simp, fun _ => rfl⟩⟩
  | cons field rest ih =>
      obtain ⟨column, listed, fits⟩ := columned.columnOf field (declared field List.mem_cons_self)
      rw [List.map_cons, List.nodup_cons] at distinct
      obtain ⟨next, read, updated, kept⟩ := fits.readMember_ok
        (readable column listed (fits.name ▸ List.mem_cons_self)) start
      obtain ⟨last, readRest, told⟩ := ih
        (fun other member => declared other (List.mem_cons_of_mem field member)) distinct.2
        (fun other member named => readable other member (List.mem_cons_of_mem _ named)) next
      refine ⟨last, ?_, fun other member => ⟨fun named => ?_, fun unnamed => ?_⟩⟩
      · rw [List.foldlM_cons, read]
        exact readRest
      · obtain ⟨later, untouched⟩ := told other member
        rcases List.mem_cons.mp named with here | there
        · obtain rfl : other = column := columned.named_alike member listed (here.trans fits.name)
          exact updated.congr rfl (untouched (here ▸ distinct.1))
        · have apart : other.name ≠ column.name := fun same => distinct.1 (fits.name ▸ same ▸ there)
          exact (later there).congr (kept other member apart) rfl
      · rw [List.map_cons, List.mem_cons, not_or] at unnamed
        rw [(told other member).2 unnamed.2, kept other member (fits.name ▸ unnamed.1)]

theorem byName_distinct : (layout.byName.map Field.name).Nodup := by
  rw [(layout.byName_perm.map Field.name).nodup_iff, columned.names_eq]
  exact columned.distinct

theorem byName_split {before after : List (Field R)} {field : Field R}
    (split : layout.byName = before ++ field :: after) :
    (∀ other ∈ before, other.name < field.name) ∧ ∀ other ∈ after, ¬ other.name < field.name := by
  have sorted : layout.byName.Pairwise fun a b => decide (a.name ≤ b.name) = true := by
    apply List.pairwise_mergeSort
    · intro a b c first second
      exact decide_eq_true (String.le_trans (of_decide_eq_true first) (of_decide_eq_true second))
    · intro a b
      simpa using String.le_total a.name b.name
  have distinct := columned.byName_distinct
  rw [split, List.pairwise_append, List.pairwise_cons] at sorted
  rw [split, List.map_append, List.map_cons, List.nodup_append] at distinct
  obtain ⟨_, ⟨later, _⟩, earlier⟩ := sorted
  refine ⟨fun other member => ?_, fun other member => ?_⟩
  · have atMost := of_decide_eq_true (earlier other member field List.mem_cons_self)
    have apart : other.name ≠ field.name :=
      distinct.2.2 _ (List.mem_map_of_mem member) _ List.mem_cons_self
    by_contra unordered
    exact apart (String.le_antisymm atMost (String.not_lt.mp unordered))
  · exact String.not_lt.mpr (of_decide_eq_true (later other member))

-- The members are looked through by name, so the first field that cannot be read has all those before it in
-- the order of names already behind it.
theorem readable_or_wrong (members : List (String × Json)) :
    MembersRead columns members ∨ ∃ fault, WrongMember columns members fault := by
  obtain all | ⟨before, field, after, split, bad, earlier⟩ := all_or_first
    (fun field : Field R => ∀ column ∈ columns, column.name = field.name → column.Readable members)
    layout.byName
  · left
    intro column listed
    obtain ⟨field, declared, fits⟩ := columned.fieldOf column listed
    exact all field (layout.byName_perm.mem_iff.mpr declared) column listed fits.name.symm
  · right
    obtain ⟨sooner, later⟩ := columned.byName_split split
    push Not at bad
    obtain ⟨column, listed, named, unreadable⟩ := bad
    obtain ⟨json, present, unread⟩ : ∃ json, column.member? members = some json ∧ ¬ column.Reads json := by
      simpa [Column.Readable] using unreadable
    obtain reads | ⟨fault, fails⟩ := column.reads_or json
    · exact absurd reads unread
    · refine ⟨fault, column, listed, json, present, fails, fun other member precedes => ?_⟩
      have less := (columned.precedes_iff member listed).mp precedes
      rw [named] at less
      obtain ⟨own, declared, fits⟩ := columned.fieldOf other member
      have place : own ∈ layout.byName := layout.byName_perm.mem_iff.mpr declared
      rw [split, List.mem_append, List.mem_cons] at place
      rcases place with inside | rfl | beyond
      · exact earlier own inside other member fits.name.symm
      · exact absurd (fits.name ▸ less) (String.lt_irrefl _)
      · exact absurd (fits.name ▸ less) (later own beyond)

theorem readMembers_wrong {members : List (String × Json)} {fault : Fault}
    (wrong : WrongMember columns members fault) : layout.readMembers members = .error fault := by
  obtain ⟨column, listed, json, present, fails, sooner⟩ := wrong
  obtain ⟨field, declared, fits⟩ := columned.fieldOf column listed
  obtain ⟨before, after, split⟩ := List.append_of_mem (layout.byName_perm.mem_iff.mpr declared)
  have inside : ∀ field ∈ before, field ∈ layout.byName := fun field member =>
    split ▸ List.mem_append_left _ member
  have distinct := columned.byName_distinct
  rw [split, List.map_append] at distinct
  obtain ⟨next, read, _⟩ := columned.readFields members before
    (fun field member => layout.byName_perm.mem_iff.mp (inside field member))
    (List.nodup_append.mp distinct).1 (fun other member named => by
      obtain ⟨own, place, same⟩ := List.mem_map.mp named
      have less := (columned.byName_split split).1 own place
      rw [same, fits.name, ← columned.precedes_iff member listed] at less
      exact sooner other member less) layout.blank
  have stops : layout.byName.foldlM (readMember members) layout.blank = .error fault := by
    rw [split, List.foldlM_append, read]
    change List.foldlM (readMember members) next (field :: after) = .error fault
    rw [List.foldlM_cons, fits.readMember_some present, fits.read_error fails]
    rfl
  rw [readMembers, stops]
  rfl

-- Members that can be read are read, and only then a missing field is looked for.
theorem readMembers_readable {members : List (String × Json)} (readable : MembersRead columns members) :
    ∃ last, (∀ column ∈ columns, column.Updated members layout.blank last) ∧
      layout.readMembers members = match layout.missing? members with
        | some field => .error (.missingField field.name)
        | none => .ok last := by
  obtain ⟨last, read, told⟩ := columned.readFields members layout.byName
    (fun field member => layout.byName_perm.mem_iff.mp member) columned.byName_distinct
    (fun column listed _ => readable column listed) layout.blank
  refine ⟨last, fun column listed => (told column listed).1 ?_, ?_⟩
  · rw [(layout.byName_perm.map Field.name).mem_iff, columned.names_eq]
    exact List.mem_map_of_mem listed
  · rw [readMembers, read]
    rfl

theorem readMembers_missing {members : List (String × Json)} {fault : Fault}
    (missing : MissingMember columns members fault) : layout.readMembers members = .error fault := by
  obtain ⟨readable, before, column, after, split, lacks, earlier, rfl⟩ := missing
  obtain ⟨last, _, read⟩ := columned.readMembers_readable readable
  have found : columns.find? (fun column => column.lacks members) = some column := by
    rw [List.find?_eq_some_iff_append]
    exact ⟨lacks, before, after, split, fun other member => by rw [earlier other member]; rfl⟩
  have named := Field.Fits.missing_eq columned.fits members
  rw [found] at named
  obtain ⟨field, first, same⟩ := Option.map_eq_some_iff.mp named
  rw [read, missing?, first]
  exact congrArg (fun name => Except.error (Fault.missingField name)) same

theorem readMembers_accepted {members : List (String × Json)}
    (accepts : ∀ column ∈ columns, column.Accepts (column.member? members)) :
    ∃ record, layout.readMembers members = .ok record ∧
      ∀ column ∈ columns, column.Takes record (column.member? members) := by
  have whole (column : Column R) (listed : column ∈ columns) :=
    (column.accepts_iff members).mp (accepts column listed)
  have noneLacks : columns.find? (fun column => column.lacks members) = none := by
    rw [List.find?_eq_none]
    intro column listed
    rw [(whole column listed).2]
    exact Bool.false_ne_true
  have named := Field.Fits.missing_eq columned.fits members
  rw [noneLacks, Option.map_none, Option.map_eq_none_iff] at named
  obtain ⟨last, updated, read⟩ := columned.readMembers_readable fun column listed =>
    (whole column listed).1
  refine ⟨last, by rw [read, missing?, named], fun column listed => ?_⟩
  exact (updated column listed).takes (columned.blank column listed) (accepts column listed)

theorem object_decided (members : List (String × Json)) : Decided (layout.read (.obj members))
    (fun fault => WrongMember columns members fault ∨ MissingMember columns members fault)
    (fun record => ∀ column ∈ columns, column.Takes record (column.member? members))
    (∀ column ∈ columns, column.Accepts (column.member? members)) where
  total := by
    obtain readable | ⟨fault, wrong⟩ := columned.readable_or_wrong members
    · exact (accepted_or_missing readable).imp_right fun ⟨fault, missing⟩ => ⟨fault, .inr missing⟩
    · exact .inr ⟨fault, .inl wrong⟩
  refused := by
    rintro fault (wrong | missing)
    · exact columned.readMembers_wrong wrong
    · exact columned.readMembers_missing missing
  accepted := columned.readMembers_accepted
  taken _ takes column listed := (takes column listed).accepts
  unique a b first second := columned.whole a b fun column listed =>
    (first column listed).content_eq (second column listed)

end Columned

section Elements

variable {columns listed : List (Column R)} {fields : List (Field R)}
  (fits : List.Forall₂ (Field.Fits columns) fields listed) (layout : Layout R) (total : Nat)

include fits

-- Fields and columns go along with the elements; what is read into a field is spared by those that follow.
theorem readElements_whole (inside : ∀ column ∈ listed, column ∈ columns)
    (distinct : (listed.map Column.name).Nodup) (items : List Json) (even : items.length = listed.length)
    (reads : ElementsRead listed items) (start : R) :
    ∃ last, layout.readElements total fields items start = .ok last ∧
      (∀ pair ∈ listed.zip items, pair.1.Takes last (some pair.2)) ∧
      ∀ other ∈ columns, other.name ∉ listed.map Column.name →
        other.content last = other.content start := by
  induction fits generalizing items start with
  | nil =>
      obtain rfl := List.length_eq_zero_iff.mp even
      exact ⟨start, rfl, by simp, fun _ _ _ => rfl⟩
  | @cons field column fields listed here _ ih =>
      cases items with
      | nil => cases even
      | cons json items =>
          rw [List.map_cons, List.nodup_cons] at distinct
          rw [ElementsRead, List.zip_cons_cons, List.forall_mem_cons] at reads
          obtain ⟨next, read, takes, kept⟩ := here.read_ok reads.1 start
          obtain ⟨last, readRest, takesRest, keptRest⟩ := ih
            (fun other member => inside other (List.mem_cons_of_mem column member)) distinct.2 items
            (Nat.succ.inj even) reads.2 next
          refine ⟨last, ?_, ?_, fun other member apart => ?_⟩
          · rw [readElements, read]
            exact readRest
          · rw [List.zip_cons_cons, List.forall_mem_cons]
            refine ⟨?_, takesRest⟩
            rw [Column.Takes, keptRest column (inside column List.mem_cons_self) distinct.1]
            exact takes
          · rw [List.map_cons, List.mem_cons, not_or] at apart
            rw [keptRest other member apart.2, kept other member apart.1]

theorem readElements_wrong {items : List Json} {fault : Fault} (wrong : WrongElement listed items fault)
    (start : R) : layout.readElements total fields items start = .error fault := by
  obtain ⟨before, pair, after, split, fails, earlier⟩ := wrong
  induction fits generalizing items before start with
  | nil => simp at split
  | cons here _ ih =>
      cases items with
      | nil => simp at split
      | cons json items =>
          rw [List.zip_cons_cons] at split
          cases before with
          | nil =>
              obtain ⟨rfl, _⟩ := List.cons.inj split
              rw [readElements, here.read_error fails]
              rfl
          | cons first before =>
              obtain ⟨rfl, rest⟩ := List.cons.inj split
              rw [List.forall_mem_cons] at earlier
              obtain ⟨next, read, _⟩ := here.read_ok earlier.1 start
              rw [readElements, read]
              exact ih next before rest earlier.2

theorem readElements_uneven {items : List Json} (uneven : items.length ≠ listed.length)
    (reads : ElementsRead listed items) (start : R) :
    layout.readElements total fields items start = .error (.invalidLength total
      (if items.length < listed.length then layout.expectation else "fewer elements in array")) := by
  induction fits generalizing items start with
  | nil =>
      cases items with
      | nil => exact absurd rfl uneven
      | cons json items => rfl
  | cons here _ ih =>
      cases items with
      | nil => rfl
      | cons json items =>
          rw [ElementsRead, List.zip_cons_cons, List.forall_mem_cons] at reads
          obtain ⟨next, read, _⟩ := here.read_ok reads.1 start
          rw [readElements, read]
          have restUneven := fun same => uneven (congrArg Nat.succ same)
          simp only [List.length_cons, Nat.succ_lt_succ_iff]
          exact ih restUneven reads.2 next

end Elements

namespace Columned

variable {layout : Layout R} {columns : List (Column R)} (columned : layout.Columned columns)

include columned

theorem array_uneven {items : List Json} {fault : Fault}
    (uneven : WrongLength columns items layout.name fault) : layout.read (.arr items) = .error fault := by
  obtain ⟨reads, ⟨short, rfl⟩ | ⟨long, rfl⟩⟩ := uneven
  · have read := readElements_uneven columned.fits layout items.length (Nat.ne_of_lt short) reads
      layout.blank
    rw [if_pos short, expectation, columned.fits.length_eq] at read
    exact read
  · have read := readElements_uneven columned.fits layout items.length (Nat.ne_of_gt long) reads
      layout.blank
    rw [if_neg (Nat.lt_asymm long)] at read
    exact read

theorem array_decided (items : List Json) : Decided (layout.read (.arr items))
    (fun fault => WrongElement columns items fault ∨ WrongLength columns items layout.name fault)
    (fun record => items.length = columns.length ∧
      ∀ pair ∈ columns.zip items, pair.1.Takes record (some pair.2))
    (items.length = columns.length ∧ ElementsRead columns items) where
  total := by
    obtain reads | ⟨fault, wrong⟩ := elementsRead_or_wrong columns items
    · obtain short | even | long := Nat.lt_trichotomy items.length columns.length
      · exact .inr ⟨_, .inr ⟨reads, .inl ⟨short, rfl⟩⟩⟩
      · exact .inl ⟨even, reads⟩
      · exact .inr ⟨_, .inr ⟨reads, .inr ⟨long, rfl⟩⟩⟩
    · exact .inr ⟨fault, .inl wrong⟩
  refused := by
    rintro fault (wrong | uneven)
    · exact readElements_wrong columned.fits layout items.length wrong layout.blank
    · exact columned.array_uneven uneven
  accepted := by
    rintro ⟨even, reads⟩
    obtain ⟨record, read, takes, _⟩ := readElements_whole columned.fits layout items.length
      (fun _ listed => listed) columned.distinct items even reads layout.blank
    exact ⟨record, read, even, takes⟩
  taken _ told := ⟨told.1, fun pair member => (told.2 pair member).accepts⟩
  unique := by
    rintro a b ⟨even, first⟩ ⟨_, second⟩
    apply columned.whole
    intro column listed
    obtain ⟨json, member⟩ := listed_pair even column listed
    exact (first _ member).content_eq (second _ member)

theorem spellings_agree (members : List (String × Json)) (items : List Json)
    (even : items.length = columns.length)
    (same : ∀ pair ∈ columns.zip items, pair.1.member? members = some pair.2) (record : R) :
    layout.read (.obj members) = .ok record ↔ layout.read (.arr items) = .ok record := by
  rw [(columned.object_decided members).ok_iff, (columned.array_decided items).ok_iff]
  constructor
  · intro takes
    refine ⟨even, fun pair member => ?_⟩
    rw [← same pair member]
    exact takes pair.1 (List.of_mem_zip member).1
  · rintro ⟨_, takes⟩ column listed
    obtain ⟨json, member⟩ := listed_pair even column listed
    rw [same _ member]
    exact takes _ member

theorem members_congr {members others : List (String × Json)}
    (same : ∀ column ∈ columns, column.member? members = column.member? others) :
    layout.read (.obj members) = layout.read (.obj others) := by
  apply readMembers_congr
  intro field declared
  obtain ⟨column, listed, fits⟩ := columned.columnOf field declared
  rw [fits.name]
  exact same column listed

/-- The columns of a layout tell how its records are decoded. -/
theorem decodes : Decodes layout.read layout.name columns where
  object members := (columned.object_decided members).ok_iff
  objectAccepted members := (columned.object_decided members).accepts_iff
  objectRefused members := (columned.object_decided members).error_iff
  array items := (columned.array_decided items).ok_iff
  arrayAccepted items := (columned.array_decided items).accepts_iff
  arrayRefused items := (columned.array_decided items).error_iff
  neither json notMembers notItems := by
    cases json with
    | obj members => exact absurd rfl (notMembers members)
    | arr items => exact absurd rfl (notItems items)
    | _ => rfl
  unordered _ _ distinct order :=
    columned.members_congr fun column _ => Json.memberOf_perm column.name distinct order
  unknown members := columned.members_congr fun column listed =>
    Json.memberOf_filter (List.mem_map_of_mem listed) members
  spellings := columned.spellings_agree

end Columned

end Layout

end QueryRecorder
