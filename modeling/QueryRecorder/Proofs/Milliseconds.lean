import QueryRecorder.Setting
import QueryRecorder.Proofs.Numerals
import Mathlib.Algebra.Ring.Nat
import Mathlib.Data.List.Induction
import Mathlib.Data.List.TakeWhile

/-!
Counts of milliseconds as they may be written in a setting. A count is digits with at most one plus sign
in front and any blanks around; it is read as that many milliseconds if it fits into 64 bits. Every other
text is refused, and the refusal quotes it whole.
-/

namespace QueryRecorder

namespace Text

/-- The code points with the property White_Space. -/
def whiteSpace : List Nat :=
  [0x09, 0x0a, 0x0b, 0x0c, 0x0d, 0x20, 0x85, 0xa0, 0x1680, 0x2000, 0x2001, 0x2002, 0x2003, 0x2004,
    0x2005, 0x2006, 0x2007, 0x2008, 0x2009, 0x200a, 0x2028, 0x2029, 0x202f, 0x205f, 0x3000]

def White (text : List Char) : Prop := ∀ c ∈ text, c.toNat ∈ whiteSpace

/-- Digits, at least one, and the number that they stand for. -/
inductive Denotes : List Char → Nat → Prop
  | one (digit : Nat) (small : digit < 10) : Denotes [Nat.digitChar digit] digit
  | more (text : List Char) (n digit : Nat) (front : Denotes text n) (small : digit < 10) :
      Denotes (text ++ [Nat.digitChar digit]) (10 * n + digit)

/-- Digits that may follow a plus sign. -/
inductive Signed : List Char → Nat → Prop
  | plain (text : List Char) (n : Nat) (digits : Denotes text n) : Signed text n
  | plus (text : List Char) (n : Nat) (digits : Denotes text n) : Signed ('+' :: text) n

/-- A number as it may be written, with blanks around it. -/
def Writes (text : List Char) (n : Nat) : Prop :=
  ∃ before body after, text = before ++ body ++ after ∧ White before ∧ White after ∧ Signed body n

theorem isBlank_iff (c : Char) : isBlank c = true ↔ c.toNat ∈ whiteSpace := by
  simp only [isBlank, whiteSpace, Bool.or_eq_true, Bool.and_eq_true, decide_eq_true_eq, beq_iff_eq,
    List.mem_cons, List.not_mem_nil, or_false]
  omega

theorem digitChar_isDigit : ∀ digit, digit < 10 → (Nat.digitChar digit).isDigit = true := by decide

theorem digitValue_digitChar : ∀ digit, digit < 10 → digitValue (Nat.digitChar digit) = digit := by
  decide

theorem isDigit_iff (c : Char) : c.isDigit = true ↔ 48 ≤ c.toNat ∧ c.toNat ≤ 57 := by
  simp only [Char.isDigit, Bool.and_eq_true, decide_eq_true_eq, ge_iff_le, UInt32.le_iff_toNat_le]
  exact Iff.rfl

theorem digit_not_white (c : Char) (digit : c.isDigit = true) : c.toNat ∉ whiteSpace := by
  rw [isDigit_iff] at digit
  simp only [whiteSpace, List.mem_cons, List.not_mem_nil, or_false]
  omega

theorem digitChar_digitValue (c : Char) (digit : c.isDigit = true) :
    digitValue c < 10 ∧ Nat.digitChar (digitValue c) = c := by
  rw [isDigit_iff] at digit
  have small : digitValue c < 10 := by
    unfold digitValue
    omega
  refine ⟨small, ?_⟩
  apply Char.toNat_inj.mp
  rw [Nat.toNat_digitChar_of_lt_ten small, digitValue]
  omega

theorem valueOf_concat (text : List Char) (c : Char) :
    valueOf (text ++ [c]) = 10 * valueOf text + digitValue c := by
  simp [valueOf]

theorem isDecimal_iff (text : List Char) :
    isDecimal text = true ↔ text ≠ [] ∧ ∀ c ∈ text, c.isDigit = true := by
  simp [isDecimal]

/-- Digits denote the value that they are read as, and nothing else denotes a number. -/
theorem denotes_iff (text : List Char) (n : Nat) :
    Denotes text n ↔ isDecimal text = true ∧ valueOf text = n := by
  rw [isDecimal_iff]
  constructor
  · intro digits
    induction digits with
    | one digit small =>
        refine ⟨⟨by simp, ?_⟩, ?_⟩
        · simpa using digitChar_isDigit digit small
        · exact (valueOf_concat [] _).trans (by rw [digitValue_digitChar digit small]; simp [valueOf])
    | more text n digit front small ih =>
        obtain ⟨⟨_, all⟩, value⟩ := ih
        refine ⟨⟨by simp, ?_⟩, ?_⟩
        · intro c member
          rcases List.mem_append.mp member with early | last
          · exact all c early
          · rw [List.mem_singleton.mp last]
            exact digitChar_isDigit digit small
        · rw [valueOf_concat, value, digitValue_digitChar digit small]
  · rintro ⟨⟨some, all⟩, rfl⟩
    induction text using List.reverseRecOn with
    | nil => exact absurd rfl some
    | append_singleton text c ih =>
        obtain ⟨small, same⟩ := digitChar_digitValue c (all c (by simp))
        rw [valueOf_concat, ← same, digitValue_digitChar _ small]
        cases text with
        | nil => simpa [valueOf] using Denotes.one (digitValue c) small
        | cons first rest =>
            exact .more _ _ _ (ih (by simp) fun d member => all d (List.mem_append_left _ member)) small

theorem denotes_all (text : List Char) (n : Nat) (digits : Denotes text n) :
    ∀ c ∈ text, c.isDigit = true :=
  ((isDecimal_iff text).mp ((denotes_iff text n).mp digits).1).2

theorem signed_iff (text : List Char) (n : Nat) : Signed text n ↔ Denotes (dropPlus text) n := by
  constructor
  · rintro (⟨_, _, digits⟩ | ⟨text, _, digits⟩)
    · -- Digits do not begin with a plus sign, so none is taken off them.
      have kept : dropPlus text = text := by
        unfold dropPlus
        split
        · exact absurd (denotes_all _ n digits '+' List.mem_cons_self) (by decide)
        · rfl
      rw [kept]
      exact digits
    · exact digits
  · intro digits
    unfold dropPlus at digits
    split at digits
    · exact .plus _ n digits
    · exact .plain _ n digits

theorem readCount_iff (text : List Char) (count : UInt64) :
    readCount? text = some count ↔ Signed text count.toNat := by
  rw [signed_iff, denotes_iff, readCount?]
  simp only [Bool.and_eq_true, decide_eq_true_eq]
  constructor
  · intro read
    split at read
    case isTrue fits =>
        obtain ⟨digits, small⟩ := fits
        cases read
        exact ⟨digits, (Nat.mod_eq_of_lt small).symm⟩
    case isFalse => cases read
  · rintro ⟨digits, value⟩
    rw [if_pos ⟨digits, value ▸ count.toNat_lt⟩, value, UInt64.ofNat_toNat]

theorem signed_chars (text : List Char) (n : Nat) (signed : Signed text n) :
    ∀ c ∈ text, c = '+' ∨ c.isDigit = true := by
  rcases signed with ⟨_, _, digits⟩ | ⟨text, _, digits⟩
  · exact fun c member => .inr (denotes_all text n digits c member)
  · exact List.forall_mem_cons.mpr ⟨.inl rfl, fun c member => .inr (denotes_all text n digits c member)⟩

theorem signed_digit (text : List Char) (n : Nat) (signed : Signed text n) :
    ∃ c ∈ text, c.isDigit = true := by
  have some (text : List Char) (digits : Denotes text n) : ∃ c ∈ text, c.isDigit = true := by
    obtain ⟨c, rest, rfl⟩ := List.exists_cons_of_ne_nil
      ((isDecimal_iff text).mp ((denotes_iff text n).mp digits).1).1
    exact ⟨c, List.mem_cons_self, denotes_all _ n digits c List.mem_cons_self⟩
  rcases signed with ⟨_, _, digits⟩ | ⟨text, _, digits⟩
  · exact some text digits
  · obtain ⟨c, member, digit⟩ := some text digits
    exact ⟨c, List.mem_cons_of_mem '+' member, digit⟩

theorem signed_solid (text : List Char) (n : Nat) (signed : Signed text n) :
    ∀ c ∈ text, isBlank c = false := by
  intro c member
  rcases signed_chars text n signed c member with rfl | digit
  · rfl
  · have apart := digit_not_white c digit
    rwa [← isBlank_iff, Bool.not_eq_true] at apart

theorem dropWhile_reach (before body rest : List Char) (white : White before) (some : body ≠ [])
    (solid : ∀ c ∈ body, isBlank c = false) :
    (before ++ body ++ rest).dropWhile isBlank = body ++ rest := by
  obtain ⟨c, body, rfl⟩ := List.exists_cons_of_ne_nil some
  rw [List.append_assoc, List.dropWhile_append_of_pos fun d member => (isBlank_iff d).mpr (white d member)]
  exact List.dropWhile_cons_of_neg (by simp [solid c List.mem_cons_self])

-- Blanks are taken off the front, and off the front of the mirrored rest.
theorem trim_append (before body after : List Char) (first : White before) (last : White after)
    (some : body ≠ []) (solid : ∀ c ∈ body, isBlank c = false) :
    trim (before ++ body ++ after) = body := by
  have mirrored : White after.reverse := fun c member => last c (List.mem_reverse.mp member)
  have behind := dropWhile_reach after.reverse body.reverse [] mirrored (by simpa using some)
    fun c member => solid c (List.mem_reverse.mp member)
  rw [List.append_nil, List.append_nil] at behind
  rw [trim, dropWhile_reach before body after first some solid, List.reverse_append, behind,
    List.reverse_reverse]

theorem trim_split (text : List Char) :
    ∃ before after, text = before ++ trim text ++ after ∧ White before ∧ White after := by
  have white (text : List Char) : White (text.takeWhile isBlank) := fun c member =>
    (isBlank_iff c).mp (List.mem_takeWhile_imp member)
  refine ⟨text.takeWhile isBlank,
    ((text.dropWhile isBlank).reverse.takeWhile isBlank).reverse, ?_, white text, ?_⟩
  · have behind := @List.takeWhile_append_dropWhile _ isBlank (text.dropWhile isBlank).reverse
    rw [trim, List.append_assoc, ← List.reverse_append, behind, List.reverse_reverse,
      List.takeWhile_append_dropWhile]
  · intro c member
    exact white _ c (List.mem_reverse.mp member)

/-- A number is written in a text if it is what is left of the text without the blanks around it. -/
theorem writes_iff (text : List Char) (n : Nat) : Writes text n ↔ Signed (trim text) n := by
  constructor
  · rintro ⟨before, body, after, rfl, first, last, signed⟩
    obtain ⟨c, member, _⟩ := signed_digit body n signed
    rw [trim_append before body after first last (List.ne_nil_of_mem member) (signed_solid body n signed)]
    exact signed
  · intro signed
    obtain ⟨before, after, split, first, last⟩ := trim_split text
    exact ⟨before, trim text, after, split, first, last, signed⟩

theorem Writes.unique {text : List Char} {m n : Nat} (first : Writes text m) (second : Writes text n) :
    m = n := by
  rw [writes_iff, signed_iff, denotes_iff] at first second
  rw [← first.2, second.2]

theorem writes_chars (text : List Char) (n : Nat) (written : Writes text n) :
    ∀ c ∈ text, c.toNat ∈ whiteSpace ∨ c = '+' ∨ c.isDigit = true := by
  obtain ⟨before, body, after, rfl, first, last, signed⟩ := written
  intro c member
  rcases List.mem_append.mp member with early | late
  · rcases List.mem_append.mp early with inBefore | inBody
    · exact .inl (first c inBefore)
    · exact .inr (signed_chars body n signed c inBody)
  · exact .inl (last c late)

theorem writes_digit (text : List Char) (n : Nat) (written : Writes text n) :
    ∃ c ∈ text, c.isDigit = true := by
  obtain ⟨before, body, after, rfl, _, _, signed⟩ := written
  obtain ⟨c, member, digit⟩ := signed_digit body n signed
  exact ⟨c, by simp [member], digit⟩

-- A blank stands before the number or after it, so there are but blanks on one side of it.
theorem writes_whole (front back : List Char) (c : Char) (n : Nat)
    (written : Writes (front ++ c :: back) n) (white : c.toNat ∈ whiteSpace) :
    White front ∨ White back := by
  obtain ⟨before, body, after, split, first, last, signed⟩ := written
  rw [List.append_assoc] at split
  rcases List.append_eq_append_iff.mp split with ⟨inner, rfl, _⟩ | ⟨inner, rfl, rest⟩
  · exact .inl fun d member => first d (List.mem_append_left inner member)
  · right
    rcases List.append_eq_append_iff.mp rest with ⟨gap, _, behind⟩ | ⟨gap, rfl, behind⟩
    · exact fun d member => last d (by rw [behind]; simp [member])
    · cases gap with
      | nil =>
          rw [List.nil_append] at behind
          exact fun d member => last d (behind ▸ List.mem_cons_of_mem c member)
      | cons e gap =>
          rw [List.cons_append, List.cons.injEq] at behind
          have solid := signed_solid _ n signed e (by simp)
          rw [← behind.1, (isBlank_iff c).mpr white] at solid
          cases solid

end Text

open Text (Writes writes_iff)

theorem parseMillis_ok_iff (name value : String) (length : Duration) :
    parseMillis name value = .ok length ↔
      ∃ n, Writes value.toList n ∧ n < 2 ^ 64 ∧ length = .ofMillis n := by
  simp only [writes_iff, parseMillis]
  constructor
  · intro read
    split at read
    case h_1 count found =>
        cases read
        exact ⟨count.toNat, (Text.readCount_iff _ count).mp found, count.toNat_lt, rfl⟩
    case h_2 => cases read
  · rintro ⟨n, signed, small, rfl⟩
    have back : (UInt64.ofNat n).toNat = n := Nat.mod_eq_of_lt small
    have read := (Text.readCount_iff (Text.trim value.toList) (.ofNat n)).mpr (by rwa [back])
    rw [read]
    simp only [back]

theorem parseMillis_error_iff (name value : String) (fault : InvalidMillis) :
    parseMillis name value = .error fault ↔
      fault = ⟨name, value⟩ ∧ ∀ n, Writes value.toList n → 2 ^ 64 ≤ n := by
  constructor
  · intro refused
    refine ⟨?_, ?_⟩
    · unfold parseMillis at refused
      split at refused <;> cases refused
      rfl
    · intro n written
      by_contra small
      have read := (parseMillis_ok_iff name value (.ofMillis n)).mpr ⟨n, written, by omega, rfl⟩
      rw [refused] at read
      cases read
  · rintro ⟨rfl, large⟩
    cases read : parseMillis name value with
    | ok length =>
        obtain ⟨n, written, small, _⟩ := (parseMillis_ok_iff name value length).mp read
        have tooLarge := large n written
        omega
    | error fault =>
        unfold parseMillis at read
        split at read <;> cases read
        rfl

theorem Duration.eq_ofMillis_iff (length : Duration) (n : Nat) :
    length = .ofMillis n ↔
      length.seconds = n / 1000 ∧ length.subsecond = n % 1000 * 10 ^ 6 ∧ length.millis = n := by
  obtain ⟨nanos⟩ := length
  simp only [ofMillis, seconds, subsecond, millis, Duration.mk.injEq]
  omega

/-- How the text of a setting is read as a length of time. -/
structure ReadsMillis (name value : String) : Prop where
  accepted : ∀ length, parseMillis name value = .ok length ↔ ∃ n, Writes value.toList n ∧ n < 2 ^ 64 ∧
    length.seconds = n / 1000 ∧ length.subsecond = n % 1000 * 10 ^ 6 ∧ length.millis = n
  refused : ∀ fault, parseMillis name value = .error fault ↔
    fault = ⟨name, value⟩ ∧ ∀ n, Writes value.toList n → 2 ^ 64 ≤ n
  digitless : (∀ c ∈ value.toList, c.isDigit = false) → parseMillis name value = .error ⟨name, value⟩
  foreign : (∃ c ∈ value.toList, c.toNat ∉ Text.whiteSpace ∧ c ≠ '+' ∧ c.isDigit = false) →
    parseMillis name value = .error ⟨name, value⟩
  parted : ∀ front c back, value.toList = front ++ c :: back → c.toNat ∈ Text.whiteSpace →
    (∃ d ∈ front, d.toNat ∉ Text.whiteSpace) → (∃ d ∈ back, d.toNat ∉ Text.whiteSpace) →
    parseMillis name value = .error ⟨name, value⟩
  large : ∀ n, Writes value.toList n → 2 ^ 64 ≤ n → parseMillis name value = .error ⟨name, value⟩

/-- A setting is read exactly if it writes a count of 64 bits, whatever else it holds it is refused as
it stands, and every such count is read back from its digits. -/
theorem parseMillis_reads (name value : String) :
    ReadsMillis name value ∧
      ∀ count : UInt64, parseMillis name (toString count.toNat) = .ok (.ofMillis count.toNat) := by
  have refuse (none : ∀ n, Writes value.toList n → 2 ^ 64 ≤ n) :
      parseMillis name value = .error ⟨name, value⟩ :=
    (parseMillis_error_iff name value _).mpr ⟨rfl, none⟩
  refine ⟨?_, ?_⟩
  · constructor
    case accepted =>
      intro length
      simp only [parseMillis_ok_iff, Duration.eq_ofMillis_iff]
    case refused => exact parseMillis_error_iff name value
    case digitless =>
      intro none
      refine refuse fun n written => ?_
      obtain ⟨c, member, digit⟩ := Text.writes_digit _ n written
      rw [none c member] at digit
      cases digit
    case foreign =>
      rintro ⟨c, member, solid, unsigned, undigit⟩
      refine refuse fun n written => ?_
      rcases Text.writes_chars _ n written c member with white | plus | digit
      · exact absurd white solid
      · exact absurd plus unsigned
      · rw [undigit] at digit
        cases digit
    case parted =>
      rintro front c back split white ⟨d, inFront, solid⟩ ⟨e, inBack, solidToo⟩
      refine refuse fun n written => ?_
      rw [split] at written
      rcases Text.writes_whole front back c n written white with first | last
      · exact absurd (first d inFront) solid
      · exact absurd (last e inBack) solidToo
    case large =>
      intro n written tooLarge
      refine refuse fun m other => ?_
      rw [other.unique written]
      exact tooLarge
  · intro count
    refine (parseMillis_ok_iff _ _ _).mpr ⟨count.toNat, ?_, count.toNat_lt, rfl⟩
    obtain ⟨c, rest, split, _⟩ := Text.digits_cons count.toNat
    refine ⟨[], Nat.toDigits 10 count.toNat, [], by simp, by nofun, by nofun, .plain _ _ ?_⟩
    rw [Text.denotes_iff, Text.isDecimal_iff, Text.valueOf_digits]
    exact ⟨⟨by simp [split], Text.digits_all _⟩, rfl⟩

end QueryRecorder
