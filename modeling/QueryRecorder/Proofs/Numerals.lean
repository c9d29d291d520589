import QueryRecorder.Json.Reader

/-!
Numbers as text. A count in decimal digits has no needless zero in front and reads back as itself. A
number of a JSON text is read up to what cannot belong to it, so it reads back whatever comes after it
that is neither a digit nor a point nor the letter of an exponent.
-/

namespace QueryRecorder

namespace Text

theorem valueOf_eq (text : List Char) : valueOf text = Nat.ofDigitChars 10 text 0 :=
  Nat.ofDigitChars_eq_foldl.symm

theorem valueOf_digits (n : Nat) : valueOf (Nat.toDigits 10 n) = n := by
  rw [valueOf_eq, Nat.ofDigitChars_ten_toDigits]

theorem digits_all (n : Nat) : ∀ c ∈ Nat.toDigits 10 n, c.isDigit = true :=
  fun _ member => Nat.isDigit_of_mem_toDigits (by decide) (by decide) member

theorem digits_cons (n : Nat) :
    ∃ c rest, Nat.toDigits 10 n = c :: rest ∧ c.isDigit = true := by
  obtain ⟨c, rest, split⟩ := List.exists_cons_of_ne_nil (Nat.toDigits_ne_nil (n := n) (b := 10))
  exact ⟨c, rest, split, digits_all n c (by simp [split])⟩

theorem digitChar_ne_zero : ∀ n, n < 10 → n ≠ 0 → Nat.digitChar n ≠ '0' := by decide

/-- Only the count of zero begins with the digit zero. -/
theorem digits_head (n : Nat) (some : n ≠ 0) : (Nat.toDigits 10 n).head? ≠ Option.some '0' := by
  induction n using Nat.strongRecOn with
  | ind n ih =>
      rw [Nat.toDigits_eq_if (by decide)]
      split
      case isTrue small => simpa using digitChar_ne_zero n small some
      case isFalse large =>
          have first := ih (n / 10) (by omega) (by omega)
          obtain ⟨c, rest, split, _⟩ := digits_cons (n / 10)
          rw [split] at first ⊢
          exact first

end Text

namespace Json

open Text

theorem isWhole_digits (n : Nat) : isWhole (Nat.toDigits 10 n) = true := by
  by_cases zero : n = 0
  · subst zero
    rfl
  · have head := digits_head n zero
    have some := Nat.toDigits_ne_nil (n := n) (b := 10)
    generalize Nat.toDigits 10 n = digits at head some
    unfold isWhole
    split
    · exact absurd rfl some
    · rfl
    · exact absurd rfl head
    · rfl

/-- Digits that come before what is left cannot go on into it. -/
def Stops (rest : List Char) : Prop := ∀ c ∈ rest.head?, c.isDigit = false

/-- A whole number that comes before what is left cannot go on into it. -/
def Ends (rest : List Char) : Prop :=
  ∀ c ∈ rest.head?, c.isDigit = false ∧ c ≠ '.' ∧ c ≠ 'e' ∧ c ≠ 'E'

theorem Ends.stops {rest : List Char} (ends : Ends rest) : Stops rest := fun c first => (ends c first).1

theorem takeDigits_append (digits rest : List Char) (all : ∀ c ∈ digits, c.isDigit = true)
    (stops : Stops rest) : takeDigits (digits ++ rest) = (digits, rest) := by
  have none : rest.takeWhile Char.isDigit = [] ∧ rest.dropWhile Char.isDigit = rest := by
    cases rest with
    | nil => exact ⟨rfl, rfl⟩
    | cons c rest =>
        have first := stops c rfl
        exact ⟨List.takeWhile_cons_of_neg (by simp [first]), List.dropWhile_cons_of_neg (by simp [first])⟩
  rw [takeDigits, List.takeWhile_append_of_pos all, List.dropWhile_append_of_pos all, none.1, none.2,
    List.append_nil]

theorem takeMinus_digits (n : Nat) (rest : List Char) :
    takeMinus (Nat.toDigits 10 n ++ rest) = (false, Nat.toDigits 10 n ++ rest) := by
  obtain ⟨c, digits, split, digit⟩ := digits_cons n
  rw [split, List.cons_append, takeMinus]
  intro after same
  cases same
  cases digit

theorem takeMinus_writeInt (value : Int) (rest : List Char) :
    takeMinus (writeInt value ++ rest) =
      (decide (value < 0), Nat.toDigits 10 value.natAbs ++ rest) := by
  cases value with
  | ofNat n => exact takeMinus_digits n rest
  | negSucc n =>
      rw [decide_eq_true (Int.negSucc_lt_zero n)]
      rfl

theorem writeInt_cons (value : Int) :
    ∃ c rest, writeInt value = c :: rest ∧ (c = '-' ∨ c.isDigit = true) := by
  cases value with
  | ofNat n =>
      obtain ⟨c, rest, split, digit⟩ := digits_cons n
      exact ⟨c, rest, split, .inr digit⟩
  | negSucc n => exact ⟨'-', _, rfl, .inl rfl⟩

theorem signed_natAbs (value : Int) : signed (decide (value < 0)) value.natAbs = value := by
  unfold signed
  split <;> rename_i sign <;> simp only [decide_eq_true_eq] at sign <;> omega

theorem readDecimals_none (rest : List Char) (ends : rest.head? ≠ some '.') :
    readDecimals rest = some ([], rest) := by
  unfold readDecimals
  split
  · exact absurd rfl ends
  · rfl

theorem readExponent_none (rest : List Char) (ends : Ends rest) :
    readExponent rest = some (none, rest) := by
  cases rest with
  | nil => rfl
  | cons c rest =>
      obtain ⟨_, _, small, capital⟩ := ends c rfl
      rw [readExponent, if_neg (by simp [small, capital])]

theorem takeSign_writeInt (value : Int) (rest : List Char) :
    takeSign (writeInt value ++ rest) =
      (decide (value < 0), Nat.toDigits 10 value.natAbs ++ rest) := by
  rw [← takeMinus_writeInt]
  obtain ⟨c, digits, split, first⟩ := writeInt_cons value
  rw [split, List.cons_append, takeSign]
  intro after same
  cases same
  rcases first with minus | digit
  · cases minus
  · cases digit

theorem readExponent_some (exponent : Int) (rest : List Char) (stops : Stops rest) :
    readExponent ('e' :: (writeInt exponent ++ rest)) = some (some exponent, rest) := by
  rw [readExponent, if_pos (.inl rfl), takeSign_writeInt]
  simp only [takeDigits_append _ rest (digits_all _) stops, valueOf_digits, signed_natAbs]
  rw [if_neg (by simp [Nat.toDigits_ne_nil])]

theorem wholeNumber_word (value : Int) (word : fitsWord value = true) :
    wholeNumber (decide (value < 0)) value.natAbs = int value := by
  have positive : (decide (value < 0) && value.natAbs == 0) = false := by
    simp only [Bool.and_eq_false_iff, decide_eq_false_iff_not, beq_eq_false_iff_ne]
    omega
  simp only [wholeNumber, signed_natAbs, word, positive, Bool.not_false, Bool.and_true, ↓reduceIte]

theorem readNumber_int (value : Int) (rest : List Char) (word : fitsWord value = true) (ends : Ends rest) :
    readNumber (writeInt value ++ rest) = some (int value, rest) := by
  have point : rest.head? ≠ some '.' := fun here => (ends '.' here).2.1 rfl
  rw [readNumber, takeMinus_writeInt]
  simp only [takeDigits_append _ rest (digits_all _) ends.stops, isWhole_digits, readDecimals_none rest point,
    readExponent_none rest ends, Option.bind_eq_bind, Option.bind_some, List.append_nil, valueOf_digits,
    wholeNumber_word value word, ↓reduceIte]

theorem readNumber_real (mantissa exponent : Int) (rest : List Char) (stops : Stops rest) :
    readNumber (writeInt mantissa ++ 'e' :: (writeInt exponent ++ rest)) =
      some (real mantissa exponent, rest) := by
  have letter : Stops ('e' :: (writeInt exponent ++ rest)) := by
    rintro c ⟨⟩
    rfl
  have point : ('e' :: (writeInt exponent ++ rest)).head? ≠ some '.' := by simp
  rw [readNumber, takeMinus_writeInt]
  simp only [takeDigits_append _ _ (digits_all _) letter, isWhole_digits, readDecimals_none _ point,
    readExponent_some exponent rest stops, Option.bind_eq_bind, Option.bind_some, List.append_nil,
    valueOf_digits, signed_natAbs, ↓reduceIte]
  simp

end Json

end QueryRecorder
