import QueryRecorder.Json.Reader
import QueryRecorder.Text.Quoted

/-!
Quoted text is told apart by what is written. Between quotes each character is read back from what
stands for it, and nothing that stands for a character begins with a quote. So a quoted text ends with
its closing quote, whatever comes after it. Which characters are written by their numbers plays no part.
-/

namespace QueryRecorder.Text

def hexNumber (digits : List Char) : Nat :=
  digits.foldl (fun value c => 16 * value + (Json.hexValue? c).getD 0) 0

def closingBrace : Char := '\x7d'

def unescaped : Char → Char
  | '0' => '\x00'
  | 't' => '\t'
  | 'r' => '\r'
  | 'n' => '\n'
  | c => c

/-- The character that is told after a backslash, and what comes after it. -/
def readEscape : List Char → Option (Char × List Char)
  | 'u' :: _ :: rest => some (Char.ofNat (hexNumber (rest.takeWhile (· ≠ closingBrace))),
      (rest.dropWhile (· ≠ closingBrace)).tail)
  | letter :: rest => some (unescaped letter, rest)
  | [] => none

/-- The character that is told first between quotes, and what comes after it. -/
def readChar : List Char → Option (Char × List Char)
  | c :: rest =>
      if c = doubleQuote then none else if c = backslash then readEscape rest else some (c, rest)
  | [] => none

theorem hexValue_digitChar : ∀ n, n < 16 →
    Json.hexValue? (Nat.digitChar n) = some n ∧ Nat.digitChar n ≠ closingBrace := by decide

theorem hexNumber_digits (n : Nat) : hexNumber (Nat.toDigits 16 n) = n := by
  induction n using Nat.strongRecOn with
  | ind n ih =>
      rw [Nat.toDigits_eq_if (by decide)]
      split
      case isTrue small => simp [hexNumber, (hexValue_digitChar n small).1]
      case isFalse large =>
          have front := ih (n / 16) (by omega)
          have last := (hexValue_digitChar (n % 16) (Nat.mod_lt n (by decide))).1
          simp only [hexNumber, List.foldl_append, List.foldl_cons, List.foldl_nil, last,
            Option.getD_some] at front ⊢
          rw [front]
          omega

theorem digits_unbraced (n : Nat) : ∀ c ∈ Nat.toDigits 16 n, c ≠ closingBrace := by
  induction n using Nat.strongRecOn with
  | ind n ih =>
      intro c member
      rw [Nat.toDigits_eq_if (by decide)] at member
      split at member
      case isTrue small =>
          rw [List.mem_singleton.mp member]
          exact (hexValue_digitChar n small).2
      case isFalse large =>
          rcases List.mem_append.mp member with early | last
          · exact ih (n / 16) (by omega) c early
          · rw [List.mem_singleton.mp last]
            exact (hexValue_digitChar (n % 16) (Nat.mod_lt n (by decide))).2

theorem readEscape_byNumber (c : Char) (rest : List Char) :
    readEscape ('u' :: '\x7b' :: (Nat.toDigits 16 c.toNat ++ closingBrace :: rest)) = some (c, rest) := by
  have inside : ∀ d ∈ Nat.toDigits 16 c.toNat, decide (d ≠ closingBrace) = true :=
    fun d member => decide_eq_true (digits_unbraced _ d member)
  simp only [readEscape, List.takeWhile_append_of_pos inside, List.dropWhile_append_of_pos inside]
  simp [hexNumber_digits]

theorem readChar_escaped (c : Char) (rest : List Char) :
    readChar (escaped doubleQuote c ++ rest) = some (c, rest) := by
  fun_cases escaped doubleQuote c
  case case1 same =>
      subst same
      rfl
  case case2 same =>
      subst same
      rfl
  case case3 same =>
      subst same
      rfl
  case case4 same =>
      subst same
      rfl
  case case5 same => rcases same with rfl | rfl <;> rfl
  case case6 =>
      rw [byNumber, List.append_assoc]
      exact readEscape_byNumber c rest
  case case7 plain hidden =>
      obtain ⟨unquoted, solid⟩ := not_or.mp plain
      simp [readChar, unquoted, solid]

/-- Where two texts go on alike from between quotes, the same stood there and the same comes after. -/
theorem escaped_apart (text other rest more : List Char)
    (same : text.flatMap (escaped doubleQuote) ++ doubleQuote :: rest =
      other.flatMap (escaped doubleQuote) ++ doubleQuote :: more) : text = other ∧ rest = more := by
  induction text generalizing other with
  | nil =>
      cases other with
      | nil => exact ⟨rfl, (List.cons.inj same).2⟩
      | cons d other =>
          -- One text is at its closing quote, and no character of the other is.
          have read := congrArg readChar same
          rw [List.flatMap_cons, List.append_assoc, readChar_escaped] at read
          cases read
  | cons c text ih =>
      have read := congrArg readChar same
      rw [List.flatMap_cons, List.append_assoc, readChar_escaped] at read
      cases other with
      | nil => cases read
      | cons d other =>
          rw [List.flatMap_cons, List.append_assoc, readChar_escaped, Option.some.injEq,
            Prod.mk.injEq] at read
          obtain ⟨rfl, later⟩ := read
          obtain ⟨rfl, after⟩ := ih other later
          exact ⟨rfl, after⟩

theorem quoted_apart (text other : String) (rest more : List Char)
    (same : (quoted text).toList ++ rest = (quoted other).toList ++ more) :
    text = other ∧ rest = more := by
  simp only [quoted, quotedWith, String.toList_ofList, List.cons_append, List.append_assoc,
    List.nil_append, List.cons.injEq, true_and] at same
  obtain ⟨inside, after⟩ := escaped_apart text.toList other.toList rest more same
  exact ⟨String.toList_inj.mp inside, after⟩

end QueryRecorder.Text
