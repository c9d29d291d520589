import QueryRecorder.Recorder
import Mathlib.Algebra.Ring.Nat
import Mathlib.Data.List.Induction
import Mathlib.Data.List.Nodup

/-!
Histories as numbered events. Filing an event under a ticket that no entry has adds one entry and
touches no other, wherever the ticket falls, and the order of arrival is read off the tickets
whatever the order of the entries.
-/

namespace QueryRecorder.Recorder

variable {K : Type}

/-- Events under the tickets 0, 1, 2 and so on. -/
def numbered (events : List (Event K)) : List (UInt64 × Event K) :=
  events.mapIdx fun ticket event => (UInt64.ofNat ticket, event)

def Ascending (entries : List (UInt64 × Event K)) : Prop := entries.Pairwise fun a b => a.1 < b.1

def Descending (entries : List (UInt64 × Event K)) : Prop := entries.Pairwise fun a b => b.1 < a.1

theorem numbered_concat (events : List (Event K)) (event : Event K) :
    numbered (events ++ [event]) = numbered events ++ [(UInt64.ofNat events.length, event)] := by
  simp [numbered]

theorem numbered_events (events : List (Event K)) : (numbered events).map (·.2) = events := by
  induction events using List.reverseRecOn with
  | nil => rfl
  | append_singleton events event ih => rw [numbered_concat, List.map_append, ih]; rfl

-- As long as there are tickets left, they are handed out in their order.
theorem numbered_tickets (events : List (Event K)) (few : events.length ≤ 2 ^ 64) :
    (numbered events).map (·.1.toNat) = List.range events.length := by
  induction events using List.reverseRecOn with
  | nil => rfl
  | append_singleton events event ih =>
      rw [List.length_append, List.length_singleton] at few
      have last : (UInt64.ofNat events.length).toNat = events.length := by
        rw [UInt64.toNat_ofNat', Nat.mod_eq_of_lt (by omega)]
      rw [numbered_concat, List.map_append, ih (by omega), List.length_append, List.length_singleton,
        List.range_succ]
      simp [last]

theorem numbered_ascending (events : List (Event K)) (few : events.length ≤ 2 ^ 64) :
    Ascending (numbered events) := by
  have ranks : ((numbered events).map (·.1.toNat)).Pairwise (· < ·) := by
    rw [numbered_tickets events few]
    exact List.pairwise_lt_range
  exact (List.pairwise_map.mp ranks).imp UInt64.lt_iff_toNat_lt.mpr

theorem numbered_below (events : List (Event K)) (few : events.length ≤ 2 ^ 64)
    (entry : UInt64 × Event K) (member : entry ∈ numbered events) :
    entry.1.toNat < events.length := by
  have ranked : entry.1.toNat ∈ (numbered events).map (·.1.toNat) := List.mem_map_of_mem member
  rw [numbered_tickets events few] at ranked
  exact List.mem_range.mp ranked

theorem ascending_nodup (entries : List (UInt64 × Event K)) (ordered : Ascending entries) :
    (entries.map (·.1)).Nodup :=
  List.pairwise_map.mpr (ordered.imp fun {a b} less same => by simp [same] at less)

theorem file_perm (ticket : UInt64) (event : Event K) (history : List (UInt64 × Event K))
    (fresh : ∀ entry ∈ history, entry.1 ≠ ticket) :
    (file ticket event history).Perm ((ticket, event) :: history) := by
  -- The ticket may fall anywhere; the induction walks past the entries above it.
  induction history with
  | nil => exact List.Perm.refl _
  | cons entry rest ih =>
      have other := fresh entry List.mem_cons_self
      simp only [file, other, ↓reduceIte]
      split
      · exact List.Perm.refl _
      · have tail := ih fun later member => fresh later (List.mem_cons_of_mem entry member)
        exact (tail.cons entry).trans (List.Perm.swap _ _ rest)

theorem file_descending (ticket : UInt64) (event : Event K) (history : List (UInt64 × Event K))
    (fresh : ∀ entry ∈ history, entry.1 ≠ ticket) (ordered : Descending history) :
    Descending (file ticket event history) := by
  induction history with
  | nil => simp [file, Descending]
  | cons entry rest ih =>
      have other := fresh entry List.mem_cons_self
      have later := fun found member => fresh found (List.mem_cons_of_mem entry member)
      obtain ⟨above, tail⟩ := List.pairwise_cons.mp ordered
      simp only [file, other, ↓reduceIte]
      split
      · rename_i low
        refine List.pairwise_cons.mpr ⟨?_, ordered⟩
        intro found member
        rcases List.mem_cons.mp member with rfl | inRest
        · exact low
        · exact UInt64.lt_trans (above found inRest) low
      · rename_i notLow
        refine List.pairwise_cons.mpr ⟨?_, ih later tail⟩
        intro found member
        rcases List.mem_cons.mp ((file_perm ticket event rest later).subset member) with rfl | inRest
        · exact UInt64.lt_of_le_of_ne (UInt64.not_lt.mp notLow) (Ne.symm other)
        · exact above found inRest

theorem file_sublist (ticket : UInt64) (event : Event K) (history : List (UInt64 × Event K))
    (fresh : ∀ entry ∈ history, entry.1 ≠ ticket) : history.Sublist (file ticket event history) := by
  induction history with
  | nil => exact List.nil_sublist _
  | cons entry rest ih =>
      have other := fresh entry List.mem_cons_self
      simp only [file, other, ↓reduceIte]
      split
      · exact List.sublist_cons_self _ _
      · exact (ih fun later member => fresh later (List.mem_cons_of_mem entry member)).cons_cons entry

-- A ticket above all others is filed on top.
theorem file_top (ticket : UInt64) (event : Event K) (history : List (UInt64 × Event K))
    (top : ∀ entry ∈ history, entry.1 < ticket) :
    file ticket event history = (ticket, event) :: history := by
  cases history with
  | nil => rfl
  | cons entry rest => simp [file, top entry List.mem_cons_self]

theorem ascending_unique (entries : List (UInt64 × Event K)) (ordered : Ascending entries)
    (a b : UInt64 × Event K) (inA : a ∈ entries) (inB : b ∈ entries) (same : a.1 = b.1) : a = b :=
  List.inj_on_of_nodup_map (ascending_nodup entries ordered) inA inB same

theorem sorted_by_ticket (history : List (UInt64 × Event K)) :
    (history.mergeSort fun a b => a.1 ≤ b.1).Pairwise fun a b => a.1 ≤ b.1 := by
  have transitive (a b c : UInt64 × Event K) (ab : decide (a.1 ≤ b.1) = true)
      (bc : decide (b.1 ≤ c.1) = true) : decide (a.1 ≤ c.1) = true := by
    rw [decide_eq_true_eq] at ab bc ⊢
    exact UInt64.le_trans ab bc
  have total (a b : UInt64 × Event K) : (decide (a.1 ≤ b.1) || decide (b.1 ≤ a.1)) = true := by
    rw [Bool.or_eq_true, decide_eq_true_eq, decide_eq_true_eq]
    exact UInt64.le_total a.1 b.1
  exact (List.pairwise_mergeSort transitive total history).imp fun le => of_decide_eq_true le

/-- Whatever the order of the entries, the events come out by their tickets. -/
theorem inOrder_perm (history entries : List (UInt64 × Event K)) (same : history.Perm entries)
    (ordered : Ascending entries) : inOrder history = entries.map (·.2) := by
  have shuffled := (List.mergeSort_perm history fun a b => a.1 ≤ b.1).trans same
  have antisymmetric (a b : UInt64 × Event K)
      (inA : a ∈ history.mergeSort fun a b => a.1 ≤ b.1) (inB : b ∈ entries)
      (ab : a.1 ≤ b.1) (ba : b.1 ≤ a.1) : a = b :=
    ascending_unique entries ordered a b (shuffled.subset inA) inB (UInt64.le_antisymm ab ba)
  rw [inOrder, List.Perm.eq_of_pairwise antisymmetric (sorted_by_ticket history)
    (ordered.imp UInt64.le_of_lt) shuffled]

-- Entries by falling ticket list the events backwards.
theorem inOrder_reverse (history : List (UInt64 × Event K)) (falling : Descending history) :
    inOrder history = history.reverse.map (·.2) :=
  inOrder_perm history history.reverse (List.reverse_perm history).symm
    (List.pairwise_reverse.mpr falling)

/-- Where no ticket is left out, later entries come after all that there were. -/
theorem dense_prefix {entries more : List (UInt64 × Event K)} (sub : entries.Sublist more) (low : Nat)
    (dense : entries.map (·.1.toNat) = List.range' low entries.length) (ordered : Ascending more)
    (above : ∀ entry ∈ more, low ≤ entry.1.toNat) : entries <+: more := by
  induction sub generalizing low with
  | slnil => exact List.prefix_rfl
  | @cons entries more entry sub ih =>
      cases entries with
      | nil => exact List.nil_prefix
      | cons first rest =>
          -- The lowest ticket is that of the first entry, and the one left out would be below it.
          have lowest : first.1.toNat = low := by
            rw [List.length_cons, List.range'_succ, List.map_cons, List.cons.injEq] at dense
            exact dense.1
          have left := (List.pairwise_cons.mp ordered).1 first (sub.subset List.mem_cons_self)
          have bound := above entry List.mem_cons_self
          rw [UInt64.lt_iff_toNat_lt] at left
          omega
  | @cons_cons entries more entry sub ih =>
      rw [List.length_cons, List.range'_succ, List.map_cons, List.cons.injEq] at dense
      obtain ⟨highest, tail⟩ := List.pairwise_cons.mp ordered
      rw [List.prefix_cons_inj]
      refine ih (low + 1) dense.2 tail ?_
      intro later member
      have less := UInt64.lt_iff_toNat_lt.mp (highest later member)
      omega

theorem descending_eq_reverse (history entries : List (UInt64 × Event K)) (same : history.Perm entries)
    (falling : Descending history) (rising : Ascending entries) : history = entries.reverse := by
  have antisymmetric (a b : UInt64 × Event K) (inA : a ∈ history) (inB : b ∈ entries.reverse)
      (ba : b.1 ≤ a.1) (ab : a.1 ≤ b.1) : a = b :=
    ascending_unique entries rising a b (same.subset inA) (List.mem_reverse.mp inB)
      (UInt64.le_antisymm ab ba)
  exact List.Perm.eq_of_pairwise antisymmetric (falling.imp UInt64.le_of_lt)
    (List.pairwise_reverse.mpr (rising.imp UInt64.le_of_lt))
    (same.trans (List.reverse_perm entries).symm)

end QueryRecorder.Recorder
