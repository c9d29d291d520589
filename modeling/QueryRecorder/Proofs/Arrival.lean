import QueryRecorder.Proofs.Tickets

/-!
The order of arrival. A history holds one event at most under each ticket, and its entries may be met in
any order. Read off, the events come by rising tickets and each of them once, whatever that order is, and
also where a ticket has been drawn whose event is still to come.
-/

namespace QueryRecorder

variable {K : Type}

namespace Recorder

/-- The entries are those of a map from tickets to events, each met once and in any order. -/
structure Lists (map : UInt64 → Option (Event K)) (entries : List (UInt64 × Event K)) : Prop where
  once : (entries.map (·.1)).Nodup
  held : ∀ ticket event, (ticket, event) ∈ entries ↔ map ticket = some event

def tickets : List UInt64 := (List.range UInt64.size).map UInt64.ofNat

def listing (map : UInt64 → Option (Event K)) : List (UInt64 × Event K) :=
  tickets.filterMap fun ticket => (map ticket).map fun event => (ticket, event)

theorem tickets_rising : tickets.Pairwise (· < ·) := by
  refine List.pairwise_map.mpr (List.pairwise_lt_range.imp_of_mem ?_)
  intro low high inLow inHigh less
  rw [List.mem_range] at inLow inHigh
  rw [UInt64.lt_iff_toNat_lt, UInt64.toNat_ofNat_of_lt' inLow, UInt64.toNat_ofNat_of_lt' inHigh]
  exact less

theorem mem_tickets (ticket : UInt64) : ticket ∈ tickets :=
  List.mem_map.mpr ⟨ticket.toNat, List.mem_range.mpr ticket.toNat_lt_size, UInt64.ofNat_toNat⟩

theorem mem_listing (map : UInt64 → Option (Event K)) (ticket : UInt64) (event : Event K) :
    (ticket, event) ∈ listing map ↔ map ticket = some event := by
  simp only [listing, List.mem_filterMap, mem_tickets, true_and, Option.map_eq_some_iff,
    Prod.mk.injEq]
  constructor
  · rintro ⟨_, _, found, rfl, rfl⟩
    exact found
  · intro found
    exact ⟨ticket, event, found, rfl, rfl⟩

theorem listing_ascending (map : UInt64 → Option (Event K)) : Ascending (listing map) := by
  refine tickets_rising.filterMap _ ?_
  intro low high less first inFirst second inSecond
  obtain ⟨_, _, rfl⟩ := Option.map_eq_some_iff.mp inFirst
  obtain ⟨_, _, rfl⟩ := Option.map_eq_some_iff.mp inSecond
  exact less

theorem listing_events (map : UInt64 → Option (Event K)) :
    (listing map).map (·.2) = tickets.filterMap map := by
  rw [listing, List.map_filterMap]
  congr 1
  funext ticket
  rw [Option.map_map]
  exact Option.map_id'

theorem Lists.perm {map : UInt64 → Option (Event K)} {entries : List (UInt64 × Event K)}
    (listed : Lists map entries) : entries.Perm (listing map) := by
  refine (List.perm_ext_iff_of_nodup (List.Nodup.of_map _ listed.once)
    (List.Nodup.of_map _ (ascending_nodup _ (listing_ascending map)))).mpr ?_
  rintro ⟨ticket, event⟩
  rw [listed.held, mem_listing]

theorem Lists.of_perm {map : UInt64 → Option (Event K)} {entries others : List (UInt64 × Event K)}
    (listed : Lists map entries) (same : entries.Perm others) : Lists map others := by
  refine ⟨(same.map _).nodup_iff.mp listed.once, ?_⟩
  intro ticket event
  rw [← same.mem_iff, listed.held]

-- Entries of which no two have one ticket are those of a map: the one that looks tickets up in them.
theorem lists_lookup (entries : List (UInt64 × Event K)) (once : (entries.map (·.1)).Nodup) :
    Lists (fun ticket => entries.lookup ticket) entries := by
  refine ⟨once, ?_⟩
  intro ticket event
  induction entries with
  | nil => simp
  | cons entry rest ih =>
      obtain ⟨first, filed⟩ := entry
      obtain ⟨fresh, onceEach⟩ := List.nodup_cons.mp once
      rw [List.mem_cons, Prod.mk.injEq]
      by_cases same : ticket = first
      · subst same
        have missing : (ticket, event) ∉ rest := fun member => fresh (List.mem_map.mpr ⟨_, member, rfl⟩)
        simp [missing, eq_comm]
      · have apart : (ticket == first) = false := beq_eq_false_iff_ne.mpr same
        simp [List.lookup_cons, apart, same, ih onceEach]

/-- What is read off a recorder whose history holds the entries of the map. -/
structure Arrives (map : UInt64 → Option (Event K)) (recorder : Recorder K) : Prop where
  -- Every entry is told once, by rising tickets.
  ordered : ∃ entries, entries.Perm recorder.history ∧ Ascending entries ∧
    recorder.events = entries.map (·.2) ∧ recorder.eventKeys = entries.filterMap (·.2.key)
  -- The map alone decides what is told.
  events : recorder.events = tickets.filterMap map
  keys : recorder.eventKeys = tickets.filterMap fun ticket => (map ticket).bind (·.key)
  alike : ∀ other : Recorder K, Lists map other.history →
    other.events = recorder.events ∧ other.eventKeys = recorder.eventKeys

theorem listed_events (map : UInt64 → Option (Event K)) (recorder : Recorder K)
    (listed : Lists map recorder.history) : recorder.events = tickets.filterMap map := by
  rw [events, inOrder_perm recorder.history (listing map) listed.perm (listing_ascending map),
    listing_events]

/-- The order in which the entries are met does not show in what is read off. -/
theorem events_arrive (map : UInt64 → Option (Event K)) (recorder : Recorder K)
    (listed : Lists map recorder.history) : Arrives map recorder := by
  have told := listed_events map
  constructor
  case ordered =>
    have events : recorder.events = (listing map).map (·.2) := by
      rw [told recorder listed, listing_events]
    refine ⟨listing map, listed.perm.symm, listing_ascending map, events, ?_⟩
    rw [eventKeys, events, List.filterMap_map]
    rfl
  case events => exact told recorder listed
  case keys =>
    rw [eventKeys, told recorder listed, List.filterMap_filterMap]
  case alike =>
    intro other same
    have events : other.events = recorder.events := by rw [told other same, told recorder listed]
    exact ⟨events, by rw [eventKeys, eventKeys, events]⟩

-- Two of the events are the same, and the lowest ticket is met in front of the highest.
theorem events_arrive_shuffled :
    let a : Event String := .keyed .create "a"
    let b : Event String := .keyed .destroy "b"
    let holding (history : List (UInt64 × Event String)) : Recorder String :=
      { Recorder.unused "cq" none .standard with history := history }
    Lists (fun ticket => [(7, a), (5, a), (2, b)].lookup ticket) [(2, b), (7, a), (5, a)] ∧
      (holding [(2, b), (7, a), (5, a)]).events = [b, a, a] ∧
      (holding [(2, b), (7, a), (5, a)]).eventKeys = ["b", "a", "a"] := by
  intro a b holding
  have falling := lists_lookup [(7, a), (5, a), (2, b)] (by decide)
  have shuffled : Lists (fun ticket => [(7, a), (5, a), (2, b)].lookup ticket)
      [(2, b), (7, a), (5, a)] := falling.of_perm (by decide)
  have ordered : (holding [(7, a), (5, a), (2, b)]).events = [b, a, a] :=
    inOrder_reverse [(7, a), (5, a), (2, b)] (by unfold Descending; decide)
  have arrives := events_arrive _ (holding [(7, a), (5, a), (2, b)]) falling
  obtain ⟨events, keys⟩ := arrives.alike (holding [(2, b), (7, a), (5, a)]) shuffled
  refine ⟨shuffled, events.trans ordered, ?_⟩
  rw [keys, eventKeys, ordered]
  rfl

end Recorder

namespace Floor

variable [DecidableEq K] [Outlined K]

/-- At every moment of a run the events that were filed are told by rising tickets, and a ticket whose
event is still to be filed is passed by. -/
theorem threads_arrive (name : String) (user : Option String) (patience : Patience)
    (threads : List (List (Call K))) (few : threads.flatten.length < 2 ^ 64) (schedule : List Nat) :
    let floor := (ofThreads name user patience threads).run schedule
    ∃ map, Recorder.Lists map floor.recorder.history ∧ (∀ entry ∈ floor.held, map entry.1 = none) ∧
      floor.recorder.events = Recorder.tickets.filterMap map := by
  intro floor
  obtain ⟨drawn, fewer, ledger⟩ := threads_ledger name user patience threads few schedule
  have once := ledger.tickets_nodup (Nat.le_of_lt fewer)
  rw [List.map_append] at once
  obtain ⟨filed, _, apart⟩ := List.nodup_append.mp once
  have listed := Recorder.lists_lookup floor.recorder.history filed
  refine ⟨_, listed, ?_, Recorder.listed_events _ _ listed⟩
  intro entry inHand
  rw [Option.eq_none_iff_forall_not_mem]
  intro event found
  have inHistory : (entry.1, event) ∈ floor.recorder.history := (listed.held _ _).mpr found
  exact apart entry.1 (List.mem_map.mpr ⟨_, inHistory, rfl⟩) entry.1
    (List.mem_map.mpr ⟨entry, inHand, rfl⟩) rfl

end Floor

end QueryRecorder
