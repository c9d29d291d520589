import QueryRecorder.Proofs.Milliseconds
import QueryRecorder.Recorder

/-!
What an environment comes to. Each of the two variables is heeded by itself: a text that is read gives its
length, and everything else gives the default of the variable. Only a text that is not read is reported,
with the variable, the text and the default; an unset variable and bytes that are no text are passed over.
-/

namespace QueryRecorder

def Setting.ofContent : Option ByteArray → Setting
  | some bytes => .ofBytes bytes
  | none => .unset

/-- The environment whose variables hold these contents. -/
def Setting.ofContents (contents : String → Option ByteArray) (name : String) : Setting :=
  .ofContent (contents name)

theorem Setting.ofContent_text_iff (content : Option ByteArray) (value : String) :
    ofContent content = .text value ↔ content = some value.toUTF8 := by
  cases content with
  | none => simp [ofContent]
  | some bytes =>
      rw [ofContent, ofBytes, Option.some.injEq]
      constructor
      · intro found
        split at found
        case h_1 text read =>
            cases found
            unfold String.fromUTF8? at read
            split at read
            · cases read
              rfl
            · cases read
        case h_2 => cases found
      · rintro rfl
        have read : String.fromUTF8? value.toUTF8 = some value := by
          simp only [String.fromUTF8?, String.toUTF8_eq_toByteArray, dif_pos value.isValidUTF8]
          rfl
        rw [read]

theorem Duration.ofMillis_millis (count : Nat) : (Duration.ofMillis count).millis = count :=
  Nat.mul_div_cancel count (by decide)

namespace Patience

def rejection (name value : String) (millis : Nat) : Level × String :=
  (.warn, "invalid value for " ++ name ++ ": " ++ Text.quoted value ++
    " is not a number of milliseconds" ++ "; using default of " ++ toString millis ++ "ms")

/-- What a variable with a default of so many milliseconds comes to: a length, and the lines logged. -/
inductive Heeded (name : String) (millis : Nat) (content : Option ByteArray) :
    Duration → List (Level × String) → Prop
  | accepted (value : String) (length : Duration) (holds : content = some value.toUTF8)
      (read : parseMillis name value = .ok length) : Heeded name millis content length []
  | refused (value : String) (holds : content = some value.toUTF8)
      (unread : ∀ length, parseMillis name value ≠ .ok length) :
      Heeded name millis content (.ofMillis millis) [rejection name value millis]
  | textless (absent : ∀ value : String, content ≠ some value.toUTF8) :
      Heeded name millis content (.ofMillis millis) []

theorem line_rejected (name value : String) (millis : Nat) :
    Notice.line (.rejected ⟨name, value⟩ (.ofMillis millis)) = rejection name value millis := by
  change (Level.warn, "invalid value for " ++ name ++ ": " ++ Text.quoted value ++
    " is not a number of milliseconds" ++ "; using default of " ++
      toString (Duration.ofMillis millis).millis ++ "ms") = _
  rw [Duration.ofMillis_millis]
  rfl

theorem lengthOf_text (name value : String) (fallback : Duration) :
    lengthOf name fallback (.text value) =
      match parseMillis name value with
      | .ok length => (length, [])
      | .error fault => (fallback, [.rejected fault fallback]) := by
  rfl

theorem lengthOf_heeded (name : String) (millis : Nat) (content : Option ByteArray) :
    Heeded name millis content (lengthOf name (.ofMillis millis) (.ofContent content)).1
      ((lengthOf name (.ofMillis millis) (.ofContent content)).2.map Notice.line) := by
  have passed (other : ∀ value, Setting.ofContent content ≠ .text value) :
      Heeded name millis content (.ofMillis millis) [] :=
    .textless fun value holds => other value ((Setting.ofContent_text_iff content value).mpr holds)
  cases setting : Setting.ofContent content with
  | unset => exact passed fun value => by simp [setting]
  | garbled => exact passed fun value => by simp [setting]
  | text value =>
      have holds := (Setting.ofContent_text_iff content value).mp setting
      rw [lengthOf_text]
      cases read : parseMillis name value with
      | ok length => exact .accepted value length holds read
      | error fault =>
          obtain ⟨rfl, _⟩ := (parseMillis_error_iff name value fault).mp read
          have unread (length : Duration) : parseMillis name value ≠ .ok length := by simp [read]
          rw [List.map_singleton, line_rejected]
          exact .refused value holds unread

structure Heeds (contents : String → Option ByteArray) (outcome : Patience × List Notice) : Prop where
  heeded : ∃ first second,
    Heeded "Q_CQ_MAX_WAIT_TIME" 20000 (contents "Q_CQ_MAX_WAIT_TIME") outcome.1.timeout first ∧
    Heeded "Q_CQ_POLL_INTERVAL" 50 (contents "Q_CQ_POLL_INTERVAL") outcome.1.pollInterval second ∧
    outcome.2.map Notice.line = first ++ second
  -- Nothing else in the environment bears on the time limit.
  timeoutAlone : ∀ others : String → Option ByteArray,
    others "Q_CQ_MAX_WAIT_TIME" = contents "Q_CQ_MAX_WAIT_TIME" →
    (ofEnvironment (Setting.ofContents others)).1.timeout = outcome.1.timeout
  pollAlone : ∀ others : String → Option ByteArray,
    others "Q_CQ_POLL_INTERVAL" = contents "Q_CQ_POLL_INTERVAL" →
    (ofEnvironment (Setting.ofContents others)).1.pollInterval = outcome.1.pollInterval

end Patience

end QueryRecorder
