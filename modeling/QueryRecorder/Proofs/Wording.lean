import QueryRecorder.Proofs.Numerals
import QueryRecorder.Proofs.Quotation
import QueryRecorder.Proofs.Watch

/-!
What a wait in vain says tells which wait it was. A message opens with words that belong to one kind of
wait alone. Then comes the identity, at the same place for all waits of the kind, and then what was
awaited, written so that its end can be seen. What was there instead comes last and may be anything.
-/

namespace QueryRecorder

namespace Condition

/-- A condition without the key, the text or the count that it is about. -/
inductive Kind
  | created
  | destroyed
  | invalidated
  | updated
  | totalEvents
  | closed
  | regionCleared
  | regionInvalidated
  | failed
  | connected
  | disconnected
  deriving DecidableEq

namespace Kind

def all : List Kind :=
  [created, destroyed, invalidated, updated, totalEvents, closed, regionCleared, regionInvalidated,
    failed, connected, disconnected]

theorem mem_all (kind : Kind) : kind ∈ all := by
  cases kind <;> decide

def opening : Kind → String
  | created => "never got create event for CQ "
  | destroyed => "never got destroy event for key "
  | invalidated => "never got invalidate event for CQ "
  | updated => "never got update event for CQ "
  | totalEvents => "Did not receive expected number of events "
  | closed => "never got close event for CQ "
  | regionCleared => "never got region clear event for CQ "
  | regionInvalidated => "never got region invalidate event for CQ "
  | failed => "never got create error for CQ "
  | connected => "Did not receive expected number of calls to cqs connected "
  | disconnected => "Did not receive expected number of calls to cqs disconnected "

def link (identity : String) : Kind → String
  | created | invalidated | updated => identity ++ " key "
  | failed => identity ++ " messaged "
  | totalEvents | connected | disconnected => identity ++ " expected: "
  | destroyed | closed | regionCleared | regionInvalidated => ""

-- No opening goes on to that of another kind.
theorem opening_apart : ∀ kind ∈ all, ∀ other ∈ all,
    kind.opening.toList <+: other.opening.toList → kind = other := by
  decide +kernel

theorem eq_of_opening (kind other : Kind) (rest more : List Char)
    (same : kind.opening.toList ++ rest = other.opening.toList ++ more) : kind = other := by
  have first : kind.opening.toList <+: kind.opening.toList ++ rest := List.prefix_append _ _
  have second : other.opening.toList <+: kind.opening.toList ++ rest := same ▸ List.prefix_append _ _
  rcases List.prefix_or_prefix_of_prefix first second with within | beyond
  · exact opening_apart kind kind.mem_all other other.mem_all within
  · exact (opening_apart other other.mem_all kind kind.mem_all beyond).symm

end Kind

def kind {K : Type} : Condition K → Kind
  | created _ => .created
  | destroyed _ => .destroyed
  | invalidated _ => .invalidated
  | updated _ => .updated
  | totalEvents _ => .totalEvents
  | closed => .closed
  | regionCleared => .regionCleared
  | regionInvalidated => .regionInvalidated
  | failed _ => .failed
  | connected _ => .connected
  | disconnected _ => .disconnected

/-- What was awaited, as a message writes it. -/
def awaited : Condition String → String
  | created text | destroyed text | invalidated text | updated text | failed text => Text.quoted text
  | totalEvents n | connected n | disconnected n => toString n.toNat ++ " "
  | closed | regionCleared | regionInvalidated => ""

theorem shortfall_split (subject opening identity : String) (expected received : UInt64)
    (joined : "Did not receive expected number of " ++ subject ++ " " = opening) :
    ∃ rest, shortfall subject identity expected received =
      opening ++ (identity ++ " expected: " ++ (toString expected.toNat ++ " " ++ rest)) := by
  have parted : " received: " = " " ++ "received: " := by decide
  refine ⟨"received: " ++ toString received.toNat, ?_⟩
  rw [shortfall_eq opening subject identity expected received joined, parted]
  simp only [String.append_assoc]

-- A message opens with the words of its kind, and what was awaited follows the link.
theorem description_split (order : Arrangement String) (recorder : Recorder String)
    (condition : Condition String) : ∃ rest, condition.description order recorder =
      condition.kind.opening ++ (condition.kind.link recorder.identity ++ (condition.awaited ++ rest)) := by
  cases condition with
  | created key | invalidated key | updated key =>
      refine ⟨"", ?_⟩
      unfold description
      simp only [kind, Kind.opening, Kind.link, awaited, String.append_assoc, String.append_empty]
      rfl
  | destroyed key =>
      refine ⟨" in CQ " ++ recorder.identity, ?_⟩
      unfold description
      simp only [kind, Kind.opening, Kind.link, awaited, String.append_assoc, String.empty_append]
      rfl
  | failed message =>
      refine ⟨" (errors received: " ++ shown (recorder.listedErrors order) ++ ")", ?_⟩
      unfold description
      simp only [kind, Kind.opening, Kind.link, awaited, String.append_assoc]
      rfl
  | closed | regionCleared | regionInvalidated => exact ⟨recorder.identity, rfl⟩
  | totalEvents n => exact shortfall_split "events" (Kind.opening .totalEvents) _ n _ (by decide)
  | connected n =>
      exact shortfall_split "calls to cqs connected" (Kind.opening .connected) _ n _ (by decide)
  | disconnected n =>
      exact shortfall_split "calls to cqs disconnected" (Kind.opening .disconnected) _ n _ (by decide)

theorem count_apart (n m : UInt64) (rest more : List Char)
    (same : (toString n.toNat ++ " ").toList ++ rest = (toString m.toNat ++ " ").toList ++ more) :
    n = m := by
  have written (n : UInt64) (rest : List Char) :
      (toString n.toNat ++ " ").toList ++ rest = Nat.toDigits 10 n.toNat ++ ' ' :: rest := by
    simp
  have blank (rest : List Char) : Json.Stops (' ' :: rest) := by
    rintro c ⟨⟩
    rfl
  have read := congrArg Json.takeDigits same
  rw [written, written, Json.takeDigits_append _ _ (Text.digits_all _) (blank rest),
    Json.takeDigits_append _ _ (Text.digits_all _) (blank more), Prod.mk.injEq] at read
  have value := congrArg Text.valueOf read.1
  rw [Text.valueOf_digits, Text.valueOf_digits] at value
  exact UInt64.toNat_inj.mp value

theorem awaited_apart (first second : Condition String) (alike : first.kind = second.kind)
    (rest more : List Char)
    (same : first.awaited.toList ++ rest = second.awaited.toList ++ more) : first = second := by
  cases first <;> cases second <;> cases alike
  case created.created.refl text other | destroyed.destroyed.refl text other
    | invalidated.invalidated.refl text other | updated.updated.refl text other
    | failed.failed.refl text other => rw [(Text.quoted_apart text other rest more same).1]
  case totalEvents.totalEvents.refl n m | connected.connected.refl n m
    | disconnected.disconnected.refl n m => rw [count_apart n m rest more same]
  all_goals rfl

/-- Two messages on one identity are told apart where they tell of different waits, whatever comes after
them and whatever was on record. -/
theorem description_apart (one other : Recorder String) (alike : one.identity = other.identity)
    (order another : Arrangement String) (first second : Condition String) (rest more : List Char)
    (same : (first.description order one).toList ++ rest =
      (second.description another other).toList ++ more) : first = second := by
  obtain ⟨tail, split⟩ := first.description_split order one
  obtain ⟨last, parted⟩ := second.description_split another other
  simp only [split, parted, String.toList_append, List.append_assoc] at same
  have kinds := Kind.eq_of_opening _ _ _ _ same
  rw [kinds, alike] at same
  exact awaited_apart first second kinds _ _
    (List.append_cancel_left (List.append_cancel_left same))

end Condition

namespace Watch

section Vain

variable {K : Type} [DecidableEq K] [Outlined K] (order : Arrangement String)
  (circumstances : Circumstances) (condition : Condition K) (patience : Patience) (floor : Floor K)

def awaiting : Wait (Watch K) :=
  .begun (host circumstances) (condition.criterion order (host circumstances) (look circumstances))
    patience (onto floor)

-- Only the turns before a look change the floor.
theorem awaiting_looked (watch : Watch K) :
    ((awaiting order circumstances condition patience floor).looked watch).floor =
      watch.floor.run (circumstances.turns watch.looks) := by
  obtain ⟨later, looked, reached, _⟩ := look_for order circumstances condition watch
  exact (congrArg (fun outcome => outcome.2.floor) looked).trans reached

theorem awaiting_reached (start : Watch K) (round : Nat) : ∃ schedule,
    ((awaiting order circumstances condition patience floor).worldAt round start).floor =
      start.floor.run schedule := by
  induction round with
  | zero => exact ⟨[], rfl⟩
  | succ round ih =>
      obtain ⟨schedule, reached⟩ := ih
      refine ⟨schedule ++ circumstances.turns
        ((awaiting order circumstances condition patience floor).worldAt round start).looks, ?_⟩
      rw [Wait.worldAt_succ, Floor.run_append, ← reached]
      exact awaiting_looked order circumstances condition patience floor _

-- What is reported of a wait in vain describes the record at some later moment of the run.
theorem await_reports (rounds polls : Nat) (report : Timeout)
    (vain : (await order circumstances condition patience rounds (onto floor)).1 =
      .timedOut polls report) :
    ∃ schedule, report.description = condition.description order (floor.run schedule).recorder := by
  let wait := awaiting order circumstances condition patience floor
  let begun : Watch K := { onto floor with readings := 1 }
  have waits : await order circumstances condition patience rounds (onto floor) =
    wait.run rounds 0 begun := rfl
  rw [waits] at vain
  rcases wait.run_cases rounds 0 begun with
    ⟨last, _, _, _, ends⟩ | ⟨last, _, _, _, _, ends⟩ | ⟨_, ends⟩
  · rw [ends] at vain
    cases vain
  · rw [ends, wait.gaveUp_verdict] at vain
    cases vain
    obtain ⟨schedule, reached⟩ :=
      awaiting_reached order circumstances condition patience floor begun last
    let read := wait.read (wait.worldAt last begun)
    have looked : read.floor = _ := awaiting_looked order circumstances condition patience floor _
    refine ⟨schedule ++ circumstances.turns (wait.worldAt last begun).looks ++
      circumstances.turns read.looks, ?_⟩
    rw [Floor.run_append, Floor.run_append]
    have here : floor.run schedule = (wait.worldAt last begun).floor := reached.symm
    rw [here, ← looked]
    rfl
  · rw [ends] at vain
    cases vain

end Vain

/-- Two waits in vain on one identity that report the same text waited for the same, in whatever order
each of them lists the error texts. -/
theorem await_names (one other : Floor String)
    (alike : one.recorder.identity = other.recorder.identity) (order another : Arrangement String)
    (circumstances others : Circumstances) (first second : Condition String)
    (patience limits : Patience) (rounds more polls looks : Nat) (report answer : Timeout)
    (vain : (await order circumstances first patience rounds (onto one)).1 = .timedOut polls report)
    (idle : (await another others second limits more (onto other)).1 = .timedOut looks answer)
    (same : report.description = answer.description ∨ report.message = answer.message) :
    first = second := by
  obtain ⟨schedule, described⟩ :=
    await_reports order circumstances first patience one rounds polls report vain
  obtain ⟨later, explained⟩ := await_reports another others second limits other more looks answer idle
  have identity : (one.run schedule).recorder.identity = (other.run later).recorder.identity := by
    rw [(one.run_course schedule).identity, (other.run_course later).identity, alike]
  rcases same with text | line
  · refine Condition.description_apart _ _ identity order another first second [] [] ?_
    rw [← described, ← explained, text]
  · -- The time that the wait took follows the description, and may differ.
    refine Condition.description_apart _ _ identity order another first second
      (" (timed out after " ++ (toString report.elapsed.millis ++ "ms)")).toList
      (" (timed out after " ++ (toString answer.elapsed.millis ++ "ms)")).toList ?_
    rw [← described, ← explained, ← String.toList_append, ← String.toList_append]
    simp only [← String.append_assoc]
    exact congrArg String.toList line

-- The name of one query reads like the name and the user of the other. The same errors came in different
-- orders, and are listed the other way round by one of the two; the waits take different times.
theorem await_names_alike :
    let order : Arrangement String := ⟨List.reverse, List.reverse_perm⟩
    let another : Arrangement String := ⟨id, List.Perm.refl⟩
    let x : Call String := .error (.failure "x")
    let y : Call String := .error (.failure "y")
    let one : Floor String := .ofThreads "a" (some "b") .standard [[x, y]]
    let other : Floor String := .ofThreads "a (user b)" none .standard [[y, x]]
    let text := "never got create error for CQ a (user b) messaged \"k\\\"\" " ++
      "(errors received: [\"x\", \"y\"])"
    let turns (_ : Nat) := List.replicate 8 0
    one.recorder.identity = other.recorder.identity ∧
      (await order ⟨turns, fun _ => .zero⟩ (.failed "k\"") ⟨.zero, .zero⟩ 1 (onto one)).1 =
        .timedOut 1 ⟨text, .zero⟩ ∧
      (await another ⟨turns, fun looks => ⟨looks⟩⟩ (.failed "k\"") ⟨⟨2⟩, .zero⟩ 2 (onto other)).1 =
        .timedOut 2 ⟨text, ⟨2⟩⟩ ∧
      (Condition.failed "k\"" : Condition String) = .failed "k\"" := by
  intro order another x y one other text turns
  have alike : one.recorder.identity = other.recorder.identity := by decide +kernel
  have vain : (await order ⟨turns, fun _ => .zero⟩ (.failed "k\"") ⟨.zero, .zero⟩ 1 (onto one)).1 =
      .timedOut 1 ⟨text, .zero⟩ := by decide +kernel
  have idle : (await another ⟨turns, fun looks => ⟨looks⟩⟩ (.failed "k\"") ⟨⟨2⟩, .zero⟩ 2
      (onto other)).1 = .timedOut 2 ⟨text, ⟨2⟩⟩ := by decide +kernel
  exact ⟨alike, vain, idle, await_names one other alike order another _ _ _ _ _ _ _ _ _ _ _ _ vain idle
    (.inl rfl)⟩

end Watch

end QueryRecorder
