import Mathlib.Data.List.Basic
import PlayerCipher.Script.Lexeme

/-! Compact script text.
Text put together from words, numerals, simple marks, empty strings and single blanks is read
back lexeme by lexeme, as long as each lexeme ends where the next character begins. Whether it
does shows in that one character. -/

namespace PlayerCipher

namespace Text

theorem foldl_utf8Size (cs : List Char) :
    ∀ n, cs.foldl (fun n c => n + c.utf8Size) n = n + byteWidth cs := by
  induction cs with
  | nil =>
    intro n
    rfl
  | cons c cs ih =>
    intro n
    have first := ih (n + c.utf8Size)
    have alone := ih (0 + c.utf8Size)
    simp only [byteWidth, List.foldl_cons] at first alone ⊢
    omega

theorem byteWidth_cons (c : Char) (cs : List Char) :
    byteWidth (c :: cs) = c.utf8Size + byteWidth cs := by
  rw [byteWidth, List.foldl_cons, foldl_utf8Size, Nat.zero_add]

theorem byteWidth_pos {cs : List Char} (nonempty : cs ≠ []) : 0 < byteWidth cs := by
  cases cs with
  | nil => exact absurd rfl nonempty
  | cons c cs =>
    rw [byteWidth_cons]
    exact Nat.add_pos_left c.utf8Size_pos _

theorem byteWidth_append (cs ds : List Char) :
    byteWidth (cs ++ ds) = byteWidth cs + byteWidth ds := by
  rw [byteWidth, List.foldl_append, foldl_utf8Size]
  rfl

end Text

namespace Lexeme

def word (text : String) : Lexeme := ⟨some .ident, text.toList⟩

def numeral (text : List Char) : Lexeme := ⟨some .number, text⟩

def mark (c : Char) : Lexeme := ⟨some .punct, [c]⟩

def emptyString : Lexeme := ⟨some .str, ['"', '"']⟩

def blank : Lexeme := ⟨none, [' ']⟩

def written (lexemes : List Lexeme) : List Char :=
  lexemes.flatMap Lexeme.text

/-- The lexemes of a run with the byte at which each starts. -/
def placed (offset : Nat) : List Lexeme → List (Lexeme × Nat)
  | [] => []
  | lexeme :: lexemes =>
    (lexeme, offset) :: placed (offset + Text.byteWidth lexeme.text) lexemes

/-- The tokens of a run that starts at byte `offset`. -/
def tokensFrom (offset : Nat) : List Lexeme → List Token
  | [] => []
  | lexeme :: lexemes =>
    match lexeme.token? offset with
    | some token => token :: tokensFrom (offset + Text.byteWidth lexeme.text) lexemes
    | none => tokensFrom (offset + Text.byteWidth lexeme.text) lexemes

/-- Whether `text` is read as a word in front of the character `next`. -/
def isWordBefore (next : Option Char) : List Char → Bool
  | [] => false
  | c :: cs =>
    !c.isDigit && (c :: cs).all isIdentChar && !next.any isIdentChar

def isNumeralBefore (next : Option Char) : List Char → Bool
  | [] => false
  | c :: cs =>
    let second := cs.head?.or next
    (c.isDigit || (c == '.' && second.any Char.isDigit)) &&
      numberTail (second == some 'x' || second == some 'X') c (cs ++ next.toList) ==
        (cs, next.toList)

def isMarkBefore (next : Option Char) (c : Char) : Bool :=
  match c with
  | '\x7b' | '\x7d' | '(' | ')' | '[' | ']' | ';' | ',' | ':' => true
  | '=' => !next.any fun d => d == '=' || d == '>'
  | '.' => !next.any fun d => d == '.' || d.isDigit
  | '%' => next != some '='
  | _ => false

/-- Whether the lexeme is read as it stands in front of the character `next`. -/
def endsBefore (next : Option Char) (lexeme : Lexeme) : Bool :=
  match lexeme.kind with
  | some .ident => isWordBefore next lexeme.text
  | some .number => isNumeralBefore next lexeme.text
  | some .punct =>
    match lexeme.text with
    | [c] => isMarkBefore next c
    | _ => false
  | some .str => lexeme.text == ['"', '"']
  | some .regex => false
  | none => lexeme.text == [' ']

def compactRun (next : Option Char) : List Lexeme → Bool
  | [] => true
  | lexeme :: lexemes =>
    lexeme.endsBefore ((written lexemes).head?.or next) && compactRun next lexemes

theorem takeWhile_run {p : Char → Bool} {cs rest : List Char} (all : cs.all p = true)
    (stops : rest.head?.any p = false) :
    (cs ++ rest).takeWhile p = cs ∧ (cs ++ rest).dropWhile p = rest := by
  rw [List.all_eq_true] at all
  rw [List.takeWhile_append_of_pos all, List.dropWhile_append_of_pos all]
  cases rest with
  | nil => simp
  | cons d rest =>
    have fails : p d = false := by
      simpa using stops
    simp [fails]

theorem numberTail_run {hex : Bool} {rest : List Char} (cs : List Char) :
    ∀ {last : Char}, numberTail hex last (cs ++ rest.head?.toList) = (cs, rest.head?.toList) →
      numberTail hex last (cs ++ rest) = (cs, rest) := by
  induction cs with
  | nil =>
    intro last stops
    cases rest with
    | nil => rfl
    | cons d rest =>
      simp only [List.head?_cons, Option.toList_some, List.nil_append, numberTail] at stops ⊢
      split at stops
      · simp at stops
      · rename_i fails
        rw [if_neg fails]
  | cons c cs ih =>
    intro last stops
    simp only [List.cons_append, numberTail] at stops ⊢
    split at stops
    · rename_i goes
      have inner : numberTail hex c (cs ++ rest.head?.toList) = (cs, rest.head?.toList) := by
        simpa [Prod.ext_iff] using stops
      rw [if_pos goes, ih inner]
    · simp at stops

theorem isLayout_of_identChar {c : Char} (named : isIdentChar c = true) :
    Text.isLayout c = false := by
  by_contra layout
  simp only [Text.isLayout, Bool.not_eq_false, Bool.or_eq_true, beq_iff_eq] at layout
  rcases layout with (((rfl | rfl) | rfl) | rfl) | rfl <;> exact absurd named (by decide)

theorem isQuote_of_identChar {c : Char} (named : isIdentChar c = true) :
    isQuote c = false := by
  by_contra quote
  simp only [isQuote, Bool.not_eq_false, Bool.or_eq_true, beq_iff_eq] at quote
  rcases quote with (rfl | rfl) | rfl <;> exact absurd named (by decide)

theorem ne_of_identChar {c d : Char} (named : isIdentChar c = true)
    (other : isIdentChar d = false) : c ≠ d := by
  rintro rfl
  exact absurd named (by simp [other])

section FirstCharacter

variable {before : Option Token} {c : Char} {cs : List Char}

theorem next_isQuote (is : isQuote c = true) (before : Option Token) (cs : List Char) :
    next before c cs = (⟨some .str, c :: (quoted c cs).1⟩, (quoted c cs).2) := by
  have layout : Text.isLayout c = false := by
    simp only [isQuote, Bool.or_eq_true, beq_iff_eq] at is
    rcases is with (rfl | rfl) | rfl <;> rfl
  have slash : c ≠ '/' := by
    rintro rfl
    cases is
  rw [next, layout, if_neg (by decide), if_neg fun same => slash same.1,
    if_neg fun same => slash same.1, if_pos is]

theorem next_number
    (begins : (c.isDigit || (c == '.' && (cs.head?.map Char.isDigit).getD false)) = true) :
    next before c cs =
      (⟨some .number, c :: (numberTail (cs.head? == some 'x' || cs.head? == some 'X') c cs).1⟩,
        (numberTail (cs.head? == some 'x' || cs.head? == some 'X') c cs).2) := by
  have plain : ¬Text.isLayout c = true ∧ ¬isQuote c = true ∧ c ≠ '/' := by
    rw [Bool.or_eq_true, Bool.and_eq_true, beq_iff_eq] at begins
    rcases begins with digit | ⟨rfl, _⟩
    · have named : isIdentChar c = true := by
        simp [isIdentChar, Text.isNameChar, Char.isAlphanum, digit]
      rw [isLayout_of_identChar named, isQuote_of_identChar named]
      exact ⟨Bool.false_ne_true, Bool.false_ne_true, ne_of_identChar named (by decide)⟩
    · decide
  obtain ⟨layout, quote, slash⟩ := plain
  rw [next, if_neg layout, if_neg fun same => slash same.1, if_neg fun same => slash same.1,
    if_neg quote, if_pos begins]

theorem next_identChar (named : isIdentChar c = true) (digit : c.isDigit = false) :
    next before c cs =
      (⟨some .ident, c :: cs.takeWhile isIdentChar⟩, cs.dropWhile isIdentChar) := by
  have slash := ne_of_identChar named (d := '/') (by decide)
  have dot := ne_of_identChar named (d := '.') (by decide)
  simp [next, isLayout_of_identChar named, isQuote_of_identChar named, slash, dot, digit, named]

section Slash

variable (line : cs.head? ≠ some '/') (block : cs.head? ≠ some '*')
  (may : regexMayFollow before = true)
include line block may

theorem next_regexTail {text rest : List Char} (closed : regexTail false cs = some (text, rest)) :
    next before '/' cs = (⟨some .regex, '/' :: text⟩, rest) := by
  rw [next, if_neg (by decide), if_neg fun both => line both.2, if_neg fun both => block both.2,
    if_neg (by decide), if_neg (by simp), if_neg (by decide), if_pos ⟨rfl, may⟩, closed]

theorem next_unclosed (unclosed : regexTail false cs = none) :
    next before '/' cs = (⟨some .punct, ['/']⟩, cs) := by
  rw [next, if_neg (by decide), if_neg fun both => line both.2, if_neg fun both => block both.2,
    if_neg (by decide), if_neg (by simp), if_neg (by decide), if_pos ⟨rfl, may⟩, unclosed]

end Slash

theorem next_punct {punct : String}
    (plain : (Text.isLayout c || isQuote c || isIdentChar c) = false)
    (number : (c.isDigit || (c == '.' && (cs.head?.map Char.isDigit).getD false)) = false)
    (slash : c = '/' →
      regexMayFollow before = false ∧ cs.head? ≠ some '/' ∧ cs.head? ≠ some '*')
    (found : punctuators.find? (fun punct => punct.toList.isPrefixOf (c :: cs)) = some punct) :
    next before c cs = (⟨some .punct, punct.toList⟩, (c :: cs).drop punct.toList.length) := by
  rw [Bool.or_eq_false_iff, Bool.or_eq_false_iff] at plain
  obtain ⟨⟨layout, quote⟩, named⟩ := plain
  have noRegex : ¬(c = '/' ∧ regexMayFollow before = true) :=
    fun both => ne_true_of_eq_false (slash both.1).1 both.2
  rw [next, if_neg (ne_true_of_eq_false layout), if_neg fun both => (slash both.1).2.1 both.2,
    if_neg fun both => (slash both.1).2.2 both.2, if_neg (ne_true_of_eq_false quote),
    if_neg (ne_true_of_eq_false number), if_neg (ne_true_of_eq_false named), if_neg noRegex, found]

end FirstCharacter

theorem next_word {rest : List Char} {text : List Char}
    (ends : isWordBefore rest.head? text = true) :
    ∃ c cs, text = c :: cs ∧
      ∀ before, next before c (cs ++ rest) = (⟨some .ident, text⟩, rest) := by
  cases text with
  | nil => cases ends
  | cons c cs =>
    simp only [isWordBefore, Bool.and_eq_true, Bool.not_eq_true', List.all_cons] at ends
    obtain ⟨⟨digit, named, all⟩, stops⟩ := ends
    obtain ⟨taken, left⟩ := takeWhile_run all stops
    exact ⟨c, cs, rfl, fun before => by rw [next_identChar named digit, taken, left]⟩

theorem next_numeral {rest : List Char} {text : List Char}
    (ends : isNumeralBefore rest.head? text = true) :
    ∃ c cs, text = c :: cs ∧
      ∀ before, next before c (cs ++ rest) = (⟨some .number, text⟩, rest) := by
  cases text with
  | nil => cases ends
  | cons c cs =>
    simp only [isNumeralBefore, Bool.and_eq_true, beq_iff_eq, ← List.head?_append] at ends
    obtain ⟨first, stops⟩ := ends
    have begins : (c.isDigit ||
        (c == '.' && ((cs ++ rest).head?.map Char.isDigit).getD false)) = true := by
      cases shape : (cs ++ rest).head? <;> simp_all
    exact ⟨c, cs, rfl, fun before => by rw [next_number begins, numberTail_run cs stops]⟩

theorem find_equals {d : Char} (rest : List Char) (others : d ≠ '=' ∧ d ≠ '>') :
    punctuators.find? (fun punct => punct.toList.isPrefixOf ('=' :: d :: rest)) = some "=" := by
  simp [punctuators, List.isPrefixOf, others.1.symm, others.2.symm]

theorem find_dot {d : Char} (rest : List Char) (other : d ≠ '.') :
    punctuators.find? (fun punct => punct.toList.isPrefixOf ('.' :: d :: rest)) = some "." := by
  simp [punctuators, List.isPrefixOf, other.symm]

theorem find_percent {d : Char} (rest : List Char) (other : d ≠ '=') :
    punctuators.find? (fun punct => punct.toList.isPrefixOf ('%' :: d :: rest)) = some "%" := by
  simp [punctuators, List.isPrefixOf, other.symm]

theorem next_mark {rest : List Char} {c : Char} (ends : isMarkBefore rest.head? c = true)
    (before : Option Token) : next before c rest = (⟨some .punct, [c]⟩, rest) := by
  unfold isMarkBefore at ends
  split at ends
  case h_10 =>
    cases rest with
    | nil => rfl
    | cons d rest =>
      have others : d ≠ '=' ∧ d ≠ '>' := by
        simpa using ends
      exact next_punct (by decide) (by simp) (fun slash => absurd slash (by decide))
        (find_equals rest others)
  case h_11 =>
    cases rest with
    | nil => rfl
    | cons d rest =>
      have others : d ≠ '.' ∧ d.isDigit = false := by
        simpa using ends
      exact next_punct (by decide) (by simp [others.2]) (fun slash => absurd slash (by decide))
        (find_dot rest others.1)
  case h_12 =>
    cases rest with
    | nil => rfl
    | cons d rest =>
      have other : d ≠ '=' := by
        simpa using ends
      exact next_punct (by decide) (by simp) (fun slash => absurd slash (by decide))
        (find_percent rest other)
  case h_13 => cases ends
  all_goals rfl

theorem next_endsBefore {lexeme : Lexeme} {rest : List Char}
    (ends : lexeme.endsBefore rest.head? = true) :
    ∃ c cs, lexeme.text = c :: cs ∧
      ∀ before, next before c (cs ++ rest) = (lexeme, rest) := by
  obtain ⟨kind, text⟩ := lexeme
  unfold endsBefore at ends
  split at ends
  · rename_i same
    cases same
    exact next_word ends
  · rename_i same
    cases same
    exact next_numeral ends
  · rename_i same
    cases same
    split at ends
    · rename_i c shape
      cases shape
      exact ⟨c, [], rfl, fun before => next_mark ends before⟩
    · cases ends
  · rename_i same
    cases same
    have shape : text = ['"', '"'] := by
      simpa using ends
    exact ⟨'"', ['"'], shape, fun before => by rw [shape]; rfl⟩
  · cases ends
  · rename_i same
    cases same
    have shape : text = [' '] := by
      simpa using ends
    exact ⟨' ', [], shape, fun before => by rw [shape]; rfl⟩

@[simp] theorem written_nil : written [] = [] :=
  rfl

@[simp] theorem written_cons (lexeme : Lexeme) (lexemes : List Lexeme) :
    written (lexeme :: lexemes) = lexeme.text ++ written lexemes :=
  rfl

@[simp] theorem written_append (left right : List Lexeme) :
    written (left ++ right) = written left ++ written right :=
  List.flatMap_append

theorem compactRun_append (next : Option Char) (left right : List Lexeme) :
    compactRun next (left ++ right) =
      (compactRun ((written right).head?.or next) left && compactRun next right) := by
  induction left with
  | nil => rfl
  | cons lexeme left ih =>
    simp only [List.cons_append, compactRun, ih, written_append, List.head?_append, Option.or_assoc,
      Bool.and_assoc]

theorem scan_compact (rest : List Char) (lexemes : List Lexeme) :
    ∀ (before : Option Token) (offset : Nat) (done : List (Lexeme × Nat)),
      compactRun rest.head? lexemes = true →
      ∃ before', scan before offset done (written lexemes ++ rest) =
        scan before' (offset + Text.byteWidth (written lexemes))
          ((placed offset lexemes).reverse ++ done) rest := by
  induction lexemes with
  | nil =>
    intro before offset done _
    exact ⟨before, rfl⟩
  | cons lexeme lexemes ih =>
    intro before offset done compact
    rw [compactRun, Bool.and_eq_true, ← List.head?_append] at compact
    obtain ⟨c, cs, shape, step⟩ := next_endsBefore compact.1
    obtain ⟨before', passed⟩ := ih (lexeme.token? offset <|> before)
      (offset + Text.byteWidth lexeme.text) ((lexeme, offset) :: done) compact.2
    refine ⟨before', ?_⟩
    rw [written_cons, List.append_assoc, Text.byteWidth_append, ← Nat.add_assoc]
    conv =>
      lhs
      rw [shape, List.cons_append, scan, step]
    rw [passed]
    simp [placed]

theorem filterMap_placed (lexemes : List Lexeme) :
    ∀ offset, (placed offset lexemes).filterMap (fun (lexeme, offset) => lexeme.token? offset) =
      tokensFrom offset lexemes := by
  induction lexemes with
  | nil =>
    intro offset
    rfl
  | cons lexeme lexemes ih =>
    intro offset
    simp only [placed, tokensFrom, List.filterMap_cons, ih]
    cases lexeme.token? offset <;> rfl

theorem tokenize_written {lexemes : List Lexeme} (compact : compactRun none lexemes = true) :
    tokenize (String.ofList (written lexemes)) = tokensFrom 0 lexemes := by
  obtain ⟨before, read⟩ := scan_compact [] lexemes none 0 [] compact
  rw [List.append_nil, List.append_nil] at read
  simp only [tokenize, PlayerCipher.lexemes, String.toList_ofList, read, scan, List.reverse_reverse,
    filterMap_placed]

theorem tokensFrom_word (offset : Nat) (text : String) (lexemes : List Lexeme) :
    tokensFrom offset (word text :: lexemes) =
      ⟨.ident, text, offset⟩ :: tokensFrom (offset + Text.byteWidth text.toList) lexemes := by
  simp [tokensFrom, token?, word]

theorem tokensFrom_mark (offset : Nat) (c : Char) (lexemes : List Lexeme) :
    tokensFrom offset (mark c :: lexemes) =
      ⟨.punct, String.ofList [c], offset⟩ ::
        tokensFrom (offset + Text.byteWidth [c]) lexemes :=
  rfl

theorem tokensFrom_blank (offset : Nat) (lexemes : List Lexeme) :
    tokensFrom offset (blank :: lexemes) = tokensFrom (offset + 1) lexemes :=
  rfl

theorem tokensFrom_append (left right : List Lexeme) :
    ∀ offset, tokensFrom offset (left ++ right) =
      tokensFrom offset left ++ tokensFrom (offset + Text.byteWidth (written left)) right := by
  induction left with
  | nil =>
    intro offset
    rfl
  | cons lexeme left ih =>
    intro offset
    simp only [List.cons_append, tokensFrom, ih, written_cons, Text.byteWidth_append, Nat.add_assoc]
    cases lexeme.token? offset <;> rfl

end Lexeme

end PlayerCipher
