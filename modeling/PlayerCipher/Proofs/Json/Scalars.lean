import PlayerCipher.Json.Reader
import PlayerCipher.Proofs.Script.Decimal
import PlayerCipher.Proofs.Text.Encoding

/-! Strings and numbers in JSON texts.
A string that is written between quotes is read back with every one of its characters, whatever
follows. The digits of a natural number are read back where a value may end. -/

namespace PlayerCipher

namespace Json

open Text

theorem unit?_control {n : Nat} (control : n < 0x20) (rest : List Char) :
    unit? ('0' :: '0' :: hexDigit (n / 16) :: hexDigit n :: rest) = some (n, rest) := by
  have number : ((0 * 16 + 0) * 16 + n / 16 % 16) * 16 + n % 16 = n := by omega
  have zero : hexValue? '0' = some 0 := by decide
  simp only [unit?, zero, hexValue?_hexDigit, Option.bind_eq_bind, Option.bind_some, number]

theorem unicodeEscape?_control {c : Char} (control : c.toNat < 0x20) (rest : List Char) :
    unicodeEscape? ('0' :: '0' :: hexDigit (c.toNat / 16) :: hexDigit c.toNat :: rest) =
      some (c, rest) := by
  have low : ¬ (0xdc00 ≤ c.toNat ∧ c.toNat ≤ 0xdfff) := by omega
  have high : ¬ (0xd800 ≤ c.toNat ∧ c.toNat ≤ 0xdbff) := by omega
  simp only [unicodeEscape?, unit?_control control, if_neg low, if_neg high, Char.ofNat_toNat]

theorem readString_escapeChar (c : Char) (fuel : Nat) (rest : List Char) :
    readString (fuel + 1) (escapeChar c ++ rest) =
      (readString fuel rest).map fun (text, rest) => (c :: text, rest) := by
  unfold escapeChar
  split_ifs with quote backslash backspace formFeed newLine return_ tab control
  · subst quote
    rfl
  · subst backslash
    rfl
  · subst backspace
    rfl
  · subst formFeed
    rfl
  · subst newLine
    rfl
  · subst return_
    rfl
  · subst tab
    rfl
  · have escaped : escape? ('u' :: '0' :: '0' :: hexDigit (c.toNat / 16) :: hexDigit c.toNat ::
        rest) = some (c, rest) := unicodeEscape?_control control rest
    simp only [List.cons_append, List.nil_append, readString, escaped]
    rfl
  · simp only [List.singleton_append, readString, if_neg quote, if_neg backslash, if_neg control]

theorem readString_text (text rest : List Char) :
    ∀ {fuel : Nat}, text.length < fuel →
      readString fuel (text.flatMap escapeChar ++ '"' :: rest) = some (text, rest) := by
  induction text with
  | nil =>
    intro fuel enough
    obtain ⟨fuel, rfl⟩ := Nat.exists_eq_succ_of_ne_zero (Nat.ne_of_gt enough)
    rfl
  | cons c text ih =>
    intro fuel enough
    obtain ⟨fuel, rfl⟩ := Nat.exists_eq_succ_of_ne_zero (Nat.ne_of_gt (Nat.zero_lt_of_lt enough))
    rw [List.flatMap_cons, List.append_assoc, readString_escapeChar,
      ih (Nat.lt_of_succ_lt_succ enough)]
    rfl

theorem escapeChar_length (c : Char) : 1 ≤ (escapeChar c).length := by
  unfold escapeChar
  split_ifs <;> simp

theorem length_le_flatMap (text : List Char) : text.length ≤ (text.flatMap escapeChar).length := by
  induction text with
  | nil => exact Nat.le_refl 0
  | cons c text ih =>
    have first := escapeChar_length c
    rw [List.flatMap_cons, List.length_append, List.length_cons]
    omega

/-- A written string is read back when the steps are as many as the characters in sight. -/
theorem readString_quoted (text : String) {behind cs : List Char}
    (shape : cs = text.toList.flatMap escapeChar ++ '"' :: behind) :
    readString (cs.length + 1) cs = some (text.toList, behind) := by
  have width := length_le_flatMap text.toList
  have enough : text.toList.length < cs.length + 1 := by
    rw [shape, List.length_append]
    omega
  have read := readString_text text.toList behind enough
  rwa [← shape] at read

theorem head?_toDigits {n : Nat} (positive : 0 < n) : (Nat.toDigits 10 n).head? ≠ some '0' := by
  induction n using Nat.strongRecOn with
  | ind n ih =>
    by_cases small : n < 10
    · have table : ∀ m < 10, 0 < m → [m.digitChar].head? ≠ some '0' := by decide
      rw [Nat.toDigits_of_lt_base small]
      exact table n small positive
    · rw [Nat.toDigits_of_base_le (by decide) (by omega),
        List.head?_append_of_ne_nil _ Nat.toDigits_ne_nil]
      exact ih (n / 10) (by omega) (by omega)

def isStop (c : Char) : Bool :=
  isSpace c || c == ',' || c == ']' || c == '\x7d'

theorem isStop_not {c : Char} (stop : isStop c = true) :
    c.isDigit = false ∧ c ≠ '.' ∧ c ≠ 'e' ∧ c ≠ 'E' := by
  simp only [isStop, isSpace, Bool.or_eq_true, beq_iff_eq] at stop
  obtain (((((rfl | rfl) | rfl) | rfl) | rfl) | rfl) | rfl := stop <;> decide

variable {rest : List Char}

theorem integer?_toDigits (n : Nat) (stops : rest.head?.all isStop = true) :
    integer? (Nat.toDigits 10 n ++ rest) = some (Nat.toDigits 10 n, rest) := by
  have stop : rest.head?.any Char.isDigit = false := by
    cases rest with
    | nil => rfl
    | cons c cs => exact (isStop_not stops).1
  obtain ⟨taken, left⟩ := Lexeme.takeWhile_run (isDigit_toDigits n) stop
  have digits : digits? (Nat.toDigits 10 n ++ rest) = some (Nat.toDigits 10 n, rest) := by
    rw [digits?, taken, left, if_neg]
    simp [Nat.toDigits_ne_nil]
  rw [integer?, digits]
  split
  · rename_i c cs more same
    simp only [Option.some.injEq, Prod.mk.injEq] at same
    -- Only zero begins with a zero, and it has no other digit.
    by_cases positive : 0 < n
    · exact absurd (by rw [same.1]; rfl) (head?_toDigits positive)
    · have zero : n = 0 := by omega
      subst zero
      cases same.1
  · rfl

theorem fraction?_stop (stops : rest.head?.all isStop = true) :
    fraction? rest = some ([], rest) := by
  rw [fraction?]
  intro cs point
  rw [point] at stops
  exact absurd rfl (isStop_not stops).2.1

theorem exponent?_stop (stops : rest.head?.all isStop = true) :
    exponent? rest = some ([], rest) := by
  cases rest with
  | nil => rfl
  | cons c cs =>
    have letters := (isStop_not stops).2.2
    unfold exponent?
    simp [letters]

theorem exists_decimal (n : Nat) : ∃ c cs, (decimal n).toList = c :: cs ∧ c.isDigit = true := by
  have digits := isDigit_toDigits n
  rw [decimal, String.toList_ofList]
  cases shape : Nat.toDigits 10 n with
  | nil => exact absurd shape Nat.toDigits_ne_nil
  | cons c cs =>
    rw [shape, List.all_cons, Bool.and_eq_true] at digits
    exact ⟨c, cs, rfl, digits.1⟩

theorem readNumber_natural (n : Nat) (stops : rest.head?.all isStop = true) :
    readNumber ((decimal n).toList ++ rest) = some (.natural n, rest) := by
  have whole := integer?_toDigits n stops
  have value := decimalValue_toDigits n
  obtain ⟨c, cs, shape, digit⟩ := exists_decimal n
  rw [decimal, String.toList_ofList] at shape ⊢
  rw [shape] at whole value ⊢
  have unsigned : c ≠ '-' := by
    intro same
    rw [same] at digit
    cases digit
  rw [List.cons_append] at whole ⊢
  unfold readNumber
  split
  rename_i sign text parted
  split at parted
  · rename_i same
    exact absurd (List.cons.inj same).1 unsigned
  · cases parted
    simp [whole, fraction?_stop stops, exponent?_stop stops, value]

end Json

end PlayerCipher
