import PlayerCipher.Proofs.Script.Compact
import PlayerCipher.Text.Numeral

/-! Number literals.
A decimal literal is digits, a fraction and an exponent, of which some may be missing; a literal to
another base has a mark after its zero, and one of a big integer a mark at its end. Each is read as
one number in front of anything that cannot go on with it. The literals without leading zeros are
the texts of natural numbers, and are read back as those. -/

namespace PlayerCipher

namespace Text

theorem decimalValue_toDigits (n : Nat) : decimalValue (Nat.toDigits 10 n) = n :=
  Nat.ofDigitChars_ten_toDigits

theorem isDigit_toDigits (n : Nat) : (Nat.toDigits 10 n).all Char.isDigit = true := by
  rw [List.all_eq_true]
  intro c member
  exact Nat.isDigit_of_mem_toDigits (by decide) (by decide) member

theorem decimalBelow?_toDigits {limit n : Nat} (below : n < limit) :
    decimalBelow? limit (Nat.toDigits 10 n) = some n := by
  simp [decimalBelow?, isDigit_toDigits, decimalValue_toDigits, below]

end Text

namespace Lexeme

def isDigitRun : List Char → Bool
  | [] => false
  | c :: cs => c.isDigit && cs.all fun d => d.isDigit || d == '_'

def isExponent : List Char → Bool
  | [] => true
  | letter :: cs =>
    (letter == 'e' || letter == 'E') &&
      match cs with
      | [] => false
      | sign :: digits =>
        if sign == '+' || sign == '-' then isDigitRun digits else isDigitRun (sign :: digits)

inductive IsDecimal : List Char → Prop where
  | whole {digits exponent : List Char} :
    isDigitRun digits = true → isExponent exponent = true → IsDecimal (digits ++ exponent)
  | point {digits fraction exponent : List Char} :
    isDigitRun digits = true → fraction = [] ∨ isDigitRun fraction = true →
      isExponent exponent = true → IsDecimal (digits ++ '.' :: (fraction ++ exponent))
  | fraction {fraction exponent : List Char} :
    isDigitRun fraction = true → isExponent exponent = true →
      IsDecimal ('.' :: (fraction ++ exponent))

def continues (last : Char) : List Char → Bool
  | [] => true
  | c :: cs =>
    (c.isDigit || c == '_' || c == '.' || c == 'e' || c == 'E' ||
      ((c == '+' || c == '-') && (last == 'e' || last == 'E'))) && continues c cs

theorem continues_append (cs ds : List Char) :
    ∀ last, continues last (cs ++ ds) = (continues last cs && continues (cs.getLastD last) ds) := by
  induction cs with
  | nil =>
    intro last
    rfl
  | cons c cs ih =>
    intro last
    have ends : (c :: cs).getLastD last = cs.getLastD c := by
      cases cs <;> rfl
    rw [List.cons_append, continues, continues, ih, ends, Bool.and_assoc]

def isLiteralChar (c : Char) : Bool :=
  Text.isNameChar c || c == '.' || c == '+' || c == '-'

theorem numberTail_stops {hex : Bool} {last : Char} {next : Option Char}
    (stops : next.any isLiteralChar = false) :
    numberTail hex last next.toList = ([], next.toList) := by
  cases next with
  | none => rfl
  | some c =>
    simp only [Option.any_some, isLiteralChar, Text.isNameChar, Bool.or_eq_false_iff] at stops
    simp [numberTail, stops]

theorem numberTail_continues {next : Option Char} (stops : next.any isLiteralChar = false)
    (cs : List Char) :
    ∀ {last : Char}, continues last cs = true →
      numberTail false last (cs ++ next.toList) = (cs, next.toList) := by
  induction cs with
  | nil =>
    intro last _
    exact numberTail_stops stops
  | cons c cs ih =>
    intro last goes
    rw [continues, Bool.and_eq_true] at goes
    have here : (c.isAlphanum || c == '_' || c == '.' ||
        ((c == '+' || c == '-') && (last == 'e' || last == 'E') && !false)) = true := by
      have first := goes.1
      simp only [Bool.or_eq_true, beq_iff_eq] at first
      rcases first with ((((digit | rfl) | rfl) | rfl) | rfl) | sign
      · simp [Char.isAlphanum, digit]
      · rfl
      · rfl
      · rfl
      · rfl
      · simp [sign]
    rw [List.cons_append, numberTail, if_pos here, ih goes.2]

theorem isNumeralBefore_continues {next : Option Char} (stops : next.any isLiteralChar = false)
    {c : Char} {cs : List Char} (goes : continues c cs = true)
    (begins : (c.isDigit || (c == '.' && cs.head?.any Char.isDigit)) = true) :
    isNumeralBefore next (c :: cs) = true := by
  have second : (cs.head?.or next == some 'x' || cs.head?.or next == some 'X') = false := by
    cases cs with
    | nil =>
      by_contra hexadecimal
      simp only [List.head?_nil, Option.none_or, Bool.not_eq_false, Bool.or_eq_true,
        beq_iff_eq] at hexadecimal
      rcases hexadecimal with rfl | rfl <;> exact absurd stops (by decide)
    | cons d ds =>
      rw [continues, Bool.and_eq_true] at goes
      by_contra hexadecimal
      simp only [List.head?_cons, Option.or, Bool.not_eq_false, Bool.or_eq_true, beq_iff_eq,
        Option.some.injEq] at hexadecimal
      rcases hexadecimal with rfl | rfl <;> simp at goes
  have first : (c.isDigit || (c == '.' && (cs.head?.or next).any Char.isDigit)) = true := by
    cases cs with
    | nil =>
      rw [List.head?_nil, Option.any_none, Bool.and_false, Bool.or_false] at begins
      rw [begins, Bool.true_or]
    | cons d ds => exact begins
  simp only [isNumeralBefore, second, first, numberTail_continues stops cs goes]
  simp

theorem continues_digits {cs : List Char} (digits : (cs.all fun d => d.isDigit || d == '_') = true)
    (last : Char) : continues last cs = true := by
  induction cs generalizing last with
  | nil => rfl
  | cons c cs ih =>
    rw [List.all_cons, Bool.and_eq_true, Bool.or_eq_true] at digits
    obtain ⟨first, rest⟩ := digits
    rw [continues, ih rest c, Bool.and_true]
    rcases first with digit | separator
    · simp [digit]
    · simp [separator]

theorem continues_digitRun {cs : List Char} (run : isDigitRun cs = true) (last : Char) :
    continues last cs = true := by
  cases cs with
  | nil => rfl
  | cons c cs =>
    rw [isDigitRun, Bool.and_eq_true] at run
    rw [continues, run.1, continues_digits run.2]
    rfl

theorem continues_exponent {cs : List Char} (exponent : isExponent cs = true) (last : Char) :
    continues last cs = true := by
  match cs with
  | [] => rfl
  | [letter] => simp [isExponent] at exponent
  | letter :: sign :: digits =>
    simp only [isExponent, Bool.and_eq_true] at exponent
    obtain ⟨known, rest⟩ := exponent
    have tail : continues letter (sign :: digits) = true := by
      split at rest
      · rename_i signed
        rw [continues, continues_digitRun rest, known, signed]
        simp
      · exact continues_digitRun rest letter
    rw [continues, tail, Bool.and_true]
    simp only [Bool.or_eq_true] at known ⊢
    rcases known with small | capital
    · simp [small]
    · simp [capital]

theorem all_of_continues {cs : List Char} : ∀ {last : Char}, continues last cs = true →
    cs.all isLiteralChar = true := by
  induction cs with
  | nil =>
    intro last _
    rfl
  | cons c cs ih =>
    intro last goes
    rw [continues, Bool.and_eq_true] at goes
    have first : isLiteralChar c = true := by
      have known := goes.1
      simp only [Bool.or_eq_true, beq_iff_eq, Bool.and_eq_true] at known
      rcases known with ((((digit | rfl) | rfl) | rfl) | rfl) | ⟨rfl | rfl, _⟩
      · simp [isLiteralChar, Text.isNameChar, Char.isAlphanum, digit]
      all_goals rfl
    rw [List.all_cons, first, ih goes.2]
    rfl

theorem continues_decimal {text : List Char} (decimal : IsDecimal text) :
    ∃ c cs, text = c :: cs ∧ continues c cs = true ∧
      (c.isDigit || (c == '.' && cs.head?.any Char.isDigit)) = true := by
  cases decimal with
  | @whole digits exponent run power =>
    cases digits with
    | nil => cases run
    | cons c ds =>
      rw [isDigitRun, Bool.and_eq_true] at run
      refine ⟨c, ds ++ exponent, rfl, ?_, by rw [run.1, Bool.true_or]⟩
      rw [continues_append, continues_digits run.2, continues_exponent power]
      rfl
  | @point digits fraction exponent run fractional power =>
    cases digits with
    | nil => cases run
    | cons c ds =>
      rw [isDigitRun, Bool.and_eq_true] at run
      have tail : continues '.' (fraction ++ exponent) = true := by
        rw [continues_append, continues_exponent power, Bool.and_true]
        rcases fractional with rfl | run
        · rfl
        · exact continues_digitRun run '.'
      refine ⟨c, ds ++ '.' :: (fraction ++ exponent), rfl, ?_, by rw [run.1, Bool.true_or]⟩
      rw [continues_append, continues_digits run.2, continues, tail]
      rfl
  | @fraction fraction exponent run power =>
    have goes : continues '.' (fraction ++ exponent) = true := by
      rw [continues_append, continues_digitRun run, continues_exponent power]
      rfl
    refine ⟨'.', fraction ++ exponent, rfl, goes, ?_⟩
    cases fraction with
    | nil => cases run
    | cons d ds =>
      rw [isDigitRun, Bool.and_eq_true] at run
      simp [run.1]

theorem isNumeralBefore_decimal {next : Option Char} (stops : next.any isLiteralChar = false)
    {text : List Char} (decimal : IsDecimal text) : isNumeralBefore next text = true := by
  obtain ⟨c, cs, rfl, goes, begins⟩ := continues_decimal decimal
  exact isNumeralBefore_continues stops goes begins

theorem all_of_decimal {text : List Char} (decimal : IsDecimal text) :
    text.all isLiteralChar = true := by
  obtain ⟨c, cs, rfl, goes, begins⟩ := continues_decimal decimal
  have first : isLiteralChar c = true := by
    rw [Bool.or_eq_true, Bool.and_eq_true, beq_iff_eq] at begins
    rcases begins with digit | ⟨rfl, _⟩
    · simp [isLiteralChar, Text.isNameChar, Char.isAlphanum, digit]
    · rfl
  rw [List.all_cons, first, all_of_continues goes]
  rfl

theorem isDecimal_toDigits (n : Nat) : IsDecimal (Nat.toDigits 10 n) := by
  have digit : ∀ c ∈ Nat.toDigits 10 n, c.isDigit = true :=
    List.all_eq_true.1 (Text.isDigit_toDigits n)
  have run : isDigitRun (Nat.toDigits 10 n) = true := by
    cases shape : Nat.toDigits 10 n with
    | nil => exact absurd shape Nat.toDigits_ne_nil
    | cons c cs =>
      rw [shape] at digit
      simp only [isDigitRun, Bool.and_eq_true, List.all_eq_true, Bool.or_eq_true]
      refine ⟨digit c (by simp), ?_⟩
      intro d member
      exact Or.inl (digit d (by simp [member]))
  have literal := @IsDecimal.whole _ [] run rfl
  rwa [List.append_nil] at literal

def isWordChar (c : Char) : Bool :=
  c.isAlphanum || c == '_'

inductive IsNumeral : List Char → Prop where
  | decimal {text : List Char} : IsDecimal text → IsNumeral text
  | based {mark : Char} {digits : List Char} : mark ∈ ['x', 'X', 'o', 'O', 'b', 'B'] →
      digits ≠ [] → digits.all isWordChar = true → IsNumeral ('0' :: mark :: digits)
  | big {digits : List Char} : isDigitRun digits = true → IsNumeral (digits ++ ['n'])

theorem numberTail_word {hex : Bool} {next : Option Char} (stops : next.any isLiteralChar = false)
    (cs : List Char) :
    ∀ {last : Char}, cs.all isWordChar = true →
      numberTail hex last (cs ++ next.toList) = (cs, next.toList) := by
  induction cs with
  | nil =>
    intro last _
    exact numberTail_stops stops
  | cons c cs ih =>
    intro last word
    rw [List.all_cons, Bool.and_eq_true] at word
    have goes : (c.isAlphanum || c == '_' || c == '.' ||
        ((c == '+' || c == '-') && (last == 'e' || last == 'E') && !hex)) = true := by
      rw [← isWordChar, word.1, Bool.true_or, Bool.true_or]
    rw [List.cons_append, numberTail, if_pos goes, ih word.2]

theorem isNumeralBefore_word {next : Option Char} (stops : next.any isLiteralChar = false)
    {c : Char} {cs : List Char} (digit : c.isDigit = true) (word : cs.all isWordChar = true) :
    isNumeralBefore next (c :: cs) = true := by
  simp [isNumeralBefore, digit, numberTail_word stops cs word]

theorem isNumeralBefore_numeral {next : Option Char} (stops : next.any isLiteralChar = false)
    {text : List Char} (numeral : IsNumeral text) : isNumeralBefore next text = true := by
  cases numeral with
  | decimal decimal => exact isNumeralBefore_decimal stops decimal
  | @based mark digits known _ word =>
    have marked : isWordChar mark = true := by
      have table : ['x', 'X', 'o', 'O', 'b', 'B'].all isWordChar = true := rfl
      exact List.all_eq_true.1 table mark known
    apply isNumeralBefore_word stops (by decide)
    rw [List.all_cons, marked, word, Bool.and_self]
  | @big digits run =>
    cases digits with
    | nil => cases run
    | cons c cs =>
      rw [isDigitRun, Bool.and_eq_true, List.all_eq_true] at run
      rw [List.cons_append]
      apply isNumeralBefore_word stops run.1
      rw [List.all_append, Bool.and_eq_true, List.all_eq_true]
      refine ⟨?_, rfl⟩
      intro d member
      have known := run.2 d member
      rw [Bool.or_eq_true] at known
      obtain digit | separator := known
      · simp [isWordChar, Char.isAlphanum, digit]
      · simp [isWordChar, separator]

theorem IsNumeral.ne_nil {text : List Char} (numeral : IsNumeral text) : text ≠ [] := by
  have read : isNumeralBefore none text = true := isNumeralBefore_numeral rfl numeral
  rintro rfl
  cases read

end Lexeme

end PlayerCipher
