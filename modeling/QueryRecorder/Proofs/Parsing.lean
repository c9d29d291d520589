import QueryRecorder.Proofs.Numerals

/-!
Reading back what was written. A JSON value is read back from its compact text as it was, whatever
follows the text and does not go on with a number, if its whole numbers are words of 64 bits, no two
members of an object have one name, and it nests no deeper than a reader may follow. The reader's bound
is no less than the length of the text.
-/

namespace QueryRecorder.Json

open Text (backslash doubleQuote)

section Strings

/-- What a reader of a string gives that has read one character more. -/
def carry (c : Char) (read : List Char × List Char) : List Char × List Char := (c :: read.1, read.2)

theorem hexValue_digit : ∀ n, n < 16 → hexValue? (hexDigit n) = some n := by decide

-- A character below the space is written by its number in four hexadecimal digits.
theorem hexUnit_control (n : Nat) (small : n < 0x20) :
    hexUnit? '0' '0' (hexDigit (n / 16)) (hexDigit (n % 16)) = some n := by
  have zero : hexValue? '0' = some 0 := by decide
  simp only [hexUnit?, zero, hexValue_digit (n / 16) (by omega), hexValue_digit (n % 16) (by omega),
    Option.bind_eq_bind, Option.bind_some, Option.some.injEq]
  omega

theorem readText_letter (letter c : Char) (rest : List Char) (short : letter ≠ 'u')
    (stands : unescape? letter = some c) :
    readText (backslash :: letter :: rest) = (readText rest).map (carry c) := by
  rw [backslash, readText]
  · rw [stands]
    cases readText rest <;> rfl
  · intro _ _ _ _ _ same
    exact absurd same short

theorem readText_control (c : Char) (rest : List Char) (small : c.toNat < 0x20) :
    readText (backslash :: 'u' :: '0' :: '0' :: hexDigit (c.toNat / 16) ::
      hexDigit (c.toNat % 16) :: rest) = (readText rest).map (carry c) := by
  have high : isHighHalf c.toNat = false := by
    simp only [isHighHalf, Bool.and_eq_false_iff, decide_eq_false_iff_not]
    omega
  have low : isLowHalf c.toNat = false := by
    simp only [isLowHalf, Bool.and_eq_false_iff, decide_eq_false_iff_not]
    omega
  simp only [backslash, readText, hexUnit_control _ small, high, low, Option.bind_eq_bind,
    Option.bind_some, Bool.false_eq_true, ↓reduceIte, Char.ofNat_toNat]
  cases readText rest <;> rfl

theorem readText_plain (c : Char) (rest : List Char) (unquoted : c ≠ doubleQuote) (plain : c ≠ backslash)
    (large : ¬c.toNat < 0x20) : readText (c :: rest) = (readText rest).map (carry c) := by
  rw [readText, if_neg large]
  · cases readText rest <;> rfl
  · exact unquoted
  · rintro _ _ _ _ _ rfl
    exact absurd rfl plain
  · rintro _ _ rfl
    exact absurd rfl plain

/-- A character is written in one of three ways: by a letter, by its number, or as it is. -/
theorem escaped_cases (c : Char) :
    (∃ letter, escaped c = [backslash, letter] ∧ letter ≠ 'u' ∧ unescape? letter = some c) ∨
    (c.toNat < 0x20 ∧ escaped c =
      [backslash, 'u', '0', '0', hexDigit (c.toNat / 16), hexDigit (c.toNat % 16)]) ∨
    (c ≠ doubleQuote ∧ c ≠ backslash ∧ ¬c.toNat < 0x20 ∧ escaped c = [c]) := by
  fun_cases escaped c
  case case1 same => exact .inl ⟨doubleQuote, rfl, by decide, by rw [same]; rfl⟩
  case case2 same => exact .inl ⟨backslash, rfl, by decide, by rw [same]; rfl⟩
  case case3 same => exact .inl ⟨'b', rfl, by decide, by rw [same]; rfl⟩
  case case4 same => exact .inl ⟨'f', rfl, by decide, by rw [same]; rfl⟩
  case case5 same => exact .inl ⟨'n', rfl, by decide, by rw [same]; rfl⟩
  case case6 same => exact .inl ⟨'r', rfl, by decide, by rw [same]; rfl⟩
  case case7 same => exact .inl ⟨'t', rfl, by decide, by rw [same]; rfl⟩
  case case8 small => exact .inr (.inl ⟨small, rfl⟩)
  case case9 unquoted plain _ _ _ _ _ large => exact .inr (.inr ⟨unquoted, plain, large, rfl⟩)

theorem readText_escaped (c : Char) (rest : List Char) :
    readText (escaped c ++ rest) = (readText rest).map (carry c) := by
  rcases escaped_cases c with ⟨letter, form, short, stands⟩ | ⟨small, form⟩ | ⟨unquoted, plain, large, form⟩
  · rw [form]
    exact readText_letter letter c rest short stands
  · rw [form]
    exact readText_control c rest small
  · rw [form]
    exact readText_plain c rest unquoted plain large

theorem readText_write (chars rest : List Char) :
    readText (chars.flatMap escaped ++ doubleQuote :: rest) = some (chars, rest) := by
  induction chars with
  | nil => rfl
  | cons c chars ih =>
      rw [List.flatMap_cons, List.append_assoc, readText_escaped, ih]
      rfl

theorem writeText_append (text : String) (rest : List Char) :
    writeText text ++ rest = doubleQuote :: (text.toList.flatMap escaped ++ doubleQuote :: rest) := by
  simp [writeText]

end Strings

section Values

theorem skipGap_cons (c : Char) (rest : List Char) (solid : isGap c = false) :
    skipGap (c :: rest) = c :: rest := by
  rw [skipGap, List.dropWhile_cons_of_neg]
  simp [solid]

theorem isGap_numeral (c : Char) (numeral : c = '-' ∨ c.isDigit = true) : isGap c = false := by
  rcases numeral with rfl | digit
  · rfl
  · simp only [isGap, Bool.or_eq_false_iff, beq_eq_false_iff_ne]
    refine ⟨⟨⟨?_, ?_⟩, ?_⟩, ?_⟩ <;> rintro rfl <;> simp at digit

/-- The text of a value begins with a character that is no gap and closes nothing. -/
theorem write_cons (json : Json) : ∃ c rest, write json = c :: rest ∧ isGap c = false ∧ c ≠ ']' := by
  have number (value : Int) :
      ∃ c rest, writeInt value = c :: rest ∧ isGap c = false ∧ c ≠ ']' := by
    obtain ⟨c, rest, split, numeral⟩ := writeInt_cons value
    refine ⟨c, rest, split, isGap_numeral c numeral, ?_⟩
    rintro rfl
    simp at numeral
  fun_cases write json
  case case4 value => exact number value
  case case5 mantissa exponent =>
      obtain ⟨c, rest, split, first⟩ := number mantissa
      exact ⟨c, rest ++ 'e' :: writeInt exponent, by rw [split]; rfl, first⟩
  all_goals exact ⟨_, _, rfl, by decide, by decide⟩

/-- A value that is read back from its text, whatever comes after it. -/
def ReadsBack (levels : Nat) (json : Json) : Prop :=
  ∀ (bound : Nat) (rest : List Char), (write json).length < bound → Ends rest →
    readValue bound levels (write json ++ rest) = some (json, rest)

variable {levels : Nat}

theorem ReadsBack.of_succ {json : Json} (read : ∀ (bound : Nat) (rest : List Char),
    (write json).length ≤ bound → Ends rest →
      readValue (bound + 1) levels (write json ++ rest) = some (json, rest)) : ReadsBack levels json := by
  intro bound rest enough ends
  cases bound with
  | zero => exact absurd enough (Nat.not_lt_zero _)
  | succ bound => exact read bound rest (Nat.le_of_lt_succ enough) ends

theorem readValue_number (bound : Nat) (c : Char) (rest : List Char)
    (numeral : c = '-' ∨ c.isDigit = true) :
    readValue (bound + 1) levels (c :: rest) = readNumber (c :: rest) := by
  rw [readValue, skipGap_cons c rest (isGap_numeral c numeral)]
  split <;> rename_i same <;> first | rfl | (cases same; simp at numeral)

theorem readsBack_int (value : Int) (word : fitsWord value = true) : ReadsBack levels (int value) := by
  refine .of_succ fun bound rest _ ends => ?_
  obtain ⟨c, after, split, numeral⟩ := writeInt_cons value
  rw [write, ← readNumber_int value rest word ends, split, List.cons_append,
    readValue_number bound c _ numeral]

theorem readsBack_real (mantissa exponent : Int) : ReadsBack levels (real mantissa exponent) := by
  refine .of_succ fun bound rest _ ends => ?_
  obtain ⟨c, after, split, numeral⟩ := writeInt_cons mantissa
  rw [write, List.append_assoc, List.cons_append,
    ← readNumber_real mantissa exponent rest ends.stops, split, List.cons_append,
    readValue_number bound c _ numeral]

theorem readsBack_str (text : String) : ReadsBack levels (str text) := by
  refine .of_succ fun bound rest _ _ => ?_
  rw [write, writeText_append, readValue, skipGap_cons doubleQuote _ rfl]
  simp only [doubleQuote]
  rw [← doubleQuote, readText_write]
  simp

-- What comes after an item is a comma or a bracket, and no number goes on with either.
theorem ends_items (items : List Json) (rest : List Char) : Ends (writeItems items ++ rest) := by
  rcases items with _ | ⟨item, items⟩ <;> rw [writeItems] <;> rintro c ⟨⟩ <;> decide

theorem readItems_write (items : List Json) (item : Json) (first : ReadsBack levels item)
    (each : ∀ item ∈ items, ReadsBack levels item) (bound : Nat) (rest : List Char)
    (enough : (write item ++ writeItems items).length < bound) :
    readItems bound levels (write item ++ (writeItems items ++ rest)) = some (item :: items, rest) := by
  induction items generalizing item bound with
  | nil =>
      obtain _ | bound := bound
      · exact absurd enough (Nat.not_lt_zero _)
      rw [writeItems, List.length_append, List.length_singleton] at enough
      rw [readItems, first bound _ (by omega) (ends_items [] rest)]
      rfl
  | cons next items ih =>
      obtain _ | bound := bound
      · exact absurd enough (Nat.not_lt_zero _)
      have later := ih next (each next List.mem_cons_self)
        (fun item member => each item (List.mem_cons_of_mem next member)) bound
      simp only [writeItems, List.length_append, List.length_cons] at enough later
      rw [readItems, first bound _ (by omega) (ends_items (next :: items) rest)]
      simp only [writeItems, List.cons_append, List.append_assoc, Option.bind_eq_bind, Option.bind_some]
      rw [skipGap_cons ',' _ rfl]
      simp only [later (by omega), Option.bind_some]

theorem readsBack_arr (items : List Json) (each : ∀ item ∈ items, ReadsBack levels item) :
    ReadsBack (levels + 1) (arr items) := by
  refine .of_succ fun bound rest enough _ => ?_
  cases items with
  | nil => rfl
  | cons item items =>
      obtain ⟨c, after, split, solid, unclosed⟩ := write_cons item
      have inside := readItems_write items item (each item List.mem_cons_self)
        (fun item member => each item (List.mem_cons_of_mem _ member)) bound rest
      rw [write, split] at enough
      rw [split] at inside
      simp only [List.cons_append, List.length_cons] at inside enough
      rw [write, List.append_assoc, List.cons_append, readValue, skipGap_cons '[' _ rfl, split]
      simp only [List.cons_append]
      rw [skipGap_cons c _ solid]
      split
      case h_1 left same =>
          cases same
          exact absurd rfl unclosed
      case h_2 =>
          rw [inside (by omega)]
          rfl

theorem ends_members (members : List (String × Json)) (rest : List Char) :
    Ends (writeMembers members ++ rest) := by
  rcases members with _ | ⟨⟨name, value⟩, members⟩ <;> rw [writeMembers] <;> rintro c ⟨⟩ <;> decide

-- The name, the colon and the value are read; what comes after them tells whether a member follows.
theorem readMembers_member (bound : Nat) (name : String) (value : Json) (rest : List Char)
    (read : readValue bound levels (write value ++ rest) = some (value, rest)) :
    readMembers (bound + 1) levels (writeText name ++ ':' :: (write value ++ rest)) =
      match skipGap rest with
      | '\x7d' :: left => some ([(name, value)], left)
      | ',' :: more => do
          let (members, left) ← readMembers bound levels more
          some ((name, value) :: members, left)
      | _ => none := by
  rw [readMembers, writeText_append, skipGap_cons doubleQuote _ rfl]
  simp only [doubleQuote]
  rw [← doubleQuote, readText_write]
  simp only [Option.bind_eq_bind, Option.bind_some]
  rw [skipGap_cons ':' _ rfl]
  simp only [read, Option.bind_some]
  have whole : String.ofList name.toList = name := String.ofList_toList
  generalize String.ofList name.toList = same at whole ⊢
  subst whole
  rfl

theorem readMembers_write (members : List (String × Json)) (name : String) (value : Json)
    (first : ReadsBack levels value) (each : ∀ member ∈ members, ReadsBack levels member.2) (bound : Nat)
    (rest : List Char)
    (enough : (writeText name ++ ':' :: write value ++ writeMembers members).length < bound) :
    readMembers bound levels (writeText name ++ ':' :: (write value ++ (writeMembers members ++ rest))) =
      some ((name, value) :: members, rest) := by
  induction members generalizing name value bound with
  | nil =>
      obtain _ | bound := bound
      · exact absurd enough (Nat.not_lt_zero _)
      simp only [writeMembers, List.length_append, List.length_cons, List.length_nil] at enough
      rw [readMembers_member bound name value _ (first bound _ (by omega) (ends_members [] rest)),
        writeMembers, List.cons_append, skipGap_cons _ _ rfl]
      rfl
  | cons next members ih =>
      obtain _ | bound := bound
      · exact absurd enough (Nat.not_lt_zero _)
      obtain ⟨other, item⟩ := next
      have later := ih other item (each (other, item) List.mem_cons_self)
        (fun member inside => each member (List.mem_cons_of_mem _ inside)) bound
      simp only [writeMembers, List.length_append, List.length_cons] at enough later
      rw [readMembers_member bound name value _ (first bound _ (by omega) (ends_members _ rest)),
        writeMembers]
      simp only [List.cons_append, List.append_assoc]
      rw [skipGap_cons ',' _ rfl]
      simp only [later (by omega), Option.bind_eq_bind, Option.bind_some]

theorem latest_distinct (members : List (String × Json)) (distinct : (members.map (·.1)).Nodup) :
    latest members = members := by
  induction members with
  | nil => rfl
  | cons member rest ih =>
      rw [List.map_cons, List.nodup_cons] at distinct
      rw [latest, if_neg, ih distinct.2]
      rw [List.any_eq_true]
      rintro ⟨later, inside, same⟩
      exact distinct.1 (eq_of_beq same ▸ List.mem_map_of_mem inside)

theorem readsBack_obj (members : List (String × Json)) (distinct : (members.map (·.1)).Nodup)
    (each : ∀ member ∈ members, ReadsBack levels member.2) : ReadsBack (levels + 1) (obj members) := by
  refine .of_succ fun bound rest enough _ => ?_
  have whole := latest_distinct members distinct
  rcases members with _ | ⟨⟨name, value⟩, members⟩
  · rfl
  · have inside := readMembers_write members name value (each (name, value) List.mem_cons_self)
      (fun other member => each other (List.mem_cons_of_mem _ member)) bound rest
    simp only [write, List.length_append, List.length_cons] at enough inside
    simp only [write, List.cons_append, List.append_assoc]
    rw [readValue, skipGap_cons _ _ rfl]
    rw [writeText_append] at inside ⊢
    simp only [doubleQuote] at inside ⊢
    rw [skipGap_cons _ _ rfl]
    simp only [inside (by omega), Option.bind_eq_bind, Option.bind_some, whole]
    rfl

/-- What a reader leaves as it was written, and does not find too deep. -/
inductive Regular : Nat → Json → Prop
  | null {levels : Nat} : Regular levels null
  | bool {levels : Nat} (value : Bool) : Regular levels (bool value)
  | int {levels : Nat} (value : Int) (word : fitsWord value = true) : Regular levels (int value)
  | real {levels : Nat} (mantissa exponent : Int) : Regular levels (real mantissa exponent)
  | str {levels : Nat} (text : String) : Regular levels (str text)
  | arr {levels : Nat} (items : List Json) (each : ∀ item ∈ items, Regular levels item) :
      Regular (levels + 1) (arr items)
  | obj {levels : Nat} (members : List (String × Json)) (distinct : (members.map (·.1)).Nodup)
      (each : ∀ member ∈ members, Regular levels member.2) : Regular (levels + 1) (obj members)

/-- An array or an object is read back from its text when its parts are. -/
theorem Regular.readsBack {json : Json} (regular : Regular levels json) : ReadsBack levels json := by
  induction regular with
  | null => exact .of_succ fun _ _ _ _ => rfl
  | bool value => exact .of_succ fun _ _ _ _ => by cases value <;> rfl
  | int value word => exact readsBack_int value word
  | real mantissa exponent => exact readsBack_real mantissa exponent
  | str text => exact readsBack_str text
  | arr items _ each => exact readsBack_arr items each
  | obj members distinct _ each => exact readsBack_obj members distinct each

/-- Reading the text of a JSON value gives that value. -/
theorem Regular.parse_text {json : Json} (regular : Regular deepest json) :
    parse? (text json) = some json := by
  have whole := regular.readsBack ((write json).length + 1) [] (by omega) (by rintro c ⟨⟩)
  rw [List.append_nil] at whole
  rw [parse?, text]
  simp only [String.toList_ofList, whole]
  rfl

end Values

end QueryRecorder.Json
