import PlayerCipher.Script.Token

/-! Lexemes of a player script.
A lexeme is a piece of the source: a token, or text that is skipped (layout, comments and
single ASCII characters that begin no token). The lexemes of a source, in order, are the
whole source; the tokens are the lexemes with a kind. Literals are read just far enough
that brackets inside them stay hidden; nothing is evaluated. -/

namespace PlayerCipher

structure Lexeme where
  /-- Kind of the token, or `none` for skipped text. -/
  kind : Option Token.Kind
  text : List Char
deriving DecidableEq, Repr

namespace Lexeme

/-- Words after which a slash begins a regex literal and not a division. -/
def regexLeadWords : List String :=
  ["return", "typeof", "case", "do", "else", "in", "of", "new", "delete", "void", "throw",
    "instanceof", "yield", "await"]

/-- Punctuators, each before those that it begins with. -/
def punctuators : List String :=
  [">>>=", "...", "===", "!==", "**=", "<<=", ">>=", ">>>", "&&=", "||=", "??=", "=>", "==",
    "!=", "<=", ">=", "&&", "||", "??", "?.", "++", "--", "+=", "-=", "*=", "/=", "%=", "&=",
    "|=", "^=", "**", "<<", ">>", "\x7b", "\x7d", "(", ")", "[", "]", ";", ",", "<", ">", "+", "-",
    "*", "/", "%", "&", "|", "^", "!", "~", "?", ":", "=", ".", "@", "#"]

/-- Letters and digits of ASCII, `_`, `$` and every character beyond ASCII. -/
def isIdentChar (c : Char) : Bool :=
  Text.isNameChar c || !Text.isAscii c

def isQuote (c : Char) : Bool :=
  c == '"' || c == '\'' || c == '\x60'

def regexMayFollow (before : Option Token) : Bool :=
  match before with
  | none => true
  | some token =>
    match token.kind with
    | .punct => token.text != ")" && token.text != "]"
    | .ident => regexLeadWords.contains token.text
    | .number | .str | .regex => false

/-- Rest of a literal after its opening quote, and what follows it. A backslash hides the
next character; a line feed ends the literal before itself unless the quote is a backtick. -/
def quoted (quote : Char) : List Char → List Char × List Char
  | [] => ([], [])
  | '\\' :: [] => (['\\'], [])
  | '\\' :: c :: cs =>
    let (text, rest) := quoted quote cs
    ('\\' :: c :: text, rest)
  | c :: cs =>
    if c = '\n' ∧ quote ≠ '\x60' then ([], c :: cs)
    else if c = quote then ([c], cs)
    else
      let (text, rest) := quoted quote cs
      (c :: text, rest)

/-- Rest of a number after the character `last`, and what follows it. A sign belongs to the
number only after the letter of an exponent, which a hexadecimal number has none of. -/
def numberTail (hex : Bool) (last : Char) : List Char → List Char × List Char
  | [] => ([], [])
  | c :: cs =>
    if c.isAlphanum || c == '_' || c == '.' ||
        ((c == '+' || c == '-') && (last == 'e' || last == 'E') && !hex) then
      let (text, rest) := numberTail hex c cs
      (c :: text, rest)
    else ([], c :: cs)

/-- Rest of a regex literal after its opening slash, and what follows it; `none` if a line
or the source ends first. A slash inside a character class does not close it. -/
def regexTail (inClass : Bool) : List Char → Option (List Char × List Char)
  | [] => none
  | '\\' :: [] => none
  | '\\' :: c :: cs =>
    (regexTail inClass cs).map fun (text, rest) => ('\\' :: c :: text, rest)
  | c :: cs =>
    if c = '\n' then none
    else if c = '/' ∧ inClass = false then
      some (c :: cs.takeWhile Char.isAlpha, cs.dropWhile Char.isAlpha)
    else
      let inClass := if c = '[' then true else if c = ']' then false else inClass
      (regexTail inClass cs).map fun (text, rest) => (c :: text, rest)

def blockComment : List Char → List Char × List Char
  | [] => ([], [])
  | '*' :: '/' :: cs => (['*', '/'], cs)
  | c :: cs =>
    let (text, rest) := blockComment cs
    (c :: text, rest)

/-- The first lexeme of the source `c :: cs` after the token `before`, and what follows it. -/
def next (before : Option Token) (c : Char) (cs : List Char) : Lexeme × List Char :=
  if Text.isLayout c then (⟨none, [c]⟩, cs)
  else if c = '/' ∧ cs.head? = some '/' then
    (⟨none, c :: cs.takeWhile (· != '\n')⟩, cs.dropWhile (· != '\n'))
  else if c = '/' ∧ cs.head? = some '*' then
    let (text, rest) := blockComment cs.tail
    (⟨none, c :: '*' :: text⟩, rest)
  else if isQuote c then
    let (text, rest) := quoted c cs
    (⟨some .str, c :: text⟩, rest)
  else if c.isDigit || (c == '.' && (cs.head?.map Char.isDigit).getD false) then
    let hex := cs.head? == some 'x' || cs.head? == some 'X'
    let (text, rest) := numberTail hex c cs
    (⟨some .number, c :: text⟩, rest)
  else if isIdentChar c then
    (⟨some .ident, c :: cs.takeWhile isIdentChar⟩, cs.dropWhile isIdentChar)
  else if c = '/' ∧ regexMayFollow before = true then
    match regexTail false cs with
    | some (text, rest) => (⟨some .regex, c :: text⟩, rest)
    | none => (⟨some .punct, [c]⟩, cs)
  else
    match punctuators.find? (fun punct => punct.toList.isPrefixOf (c :: cs)) with
    | some punct => (⟨some .punct, punct.toList⟩, (c :: cs).drop punct.toList.length)
    | none => (⟨none, [c]⟩, cs)

theorem quoted_append (quote : Char) (cs : List Char) :
    (quoted quote cs).1 ++ (quoted quote cs).2 = cs := by
  fun_induction quoted quote cs <;> simp_all

theorem numberTail_append (hex : Bool) (last : Char) (cs : List Char) :
    (numberTail hex last cs).1 ++ (numberTail hex last cs).2 = cs := by
  fun_induction numberTail hex last cs <;> simp_all

theorem regexTail_append {inClass : Bool} {cs text rest : List Char}
    (found : regexTail inClass cs = some (text, rest)) : text ++ rest = cs := by
  fun_induction regexTail inClass cs generalizing text rest with
  | case1 => simp at found
  | case2 => simp at found
  | case3 inClass c cs ih =>
    obtain ⟨⟨t, r⟩, inner, same⟩ := Option.map_eq_some_iff.1 found
    cases same
    simp [ih inner]
  | case4 => simp at found
  | case5 => cases found; simp_all [List.takeWhile_append_dropWhile]
  | case6 =>
    rename_i ih
    obtain ⟨⟨t, r⟩, inner, same⟩ := Option.map_eq_some_iff.1 found
    cases same
    simp [ih inner]

theorem blockComment_append (cs : List Char) :
    (blockComment cs).1 ++ (blockComment cs).2 = cs := by
  fun_induction blockComment cs <;> simp_all

theorem next_append (before : Option Token) (c : Char) (cs : List Char) :
    (next before c cs).1.text ++ (next before c cs).2 = c :: cs := by
  fun_cases next before c cs with
  | case1 => rfl
  | case2 => simp [List.takeWhile_append_dropWhile]
  | case3 _ _ opens text rest comment =>
    obtain ⟨ds, rfl⟩ := List.head?_eq_some_iff.1 opens.2
    have whole := blockComment_append ds
    rw [List.tail_cons] at comment
    rw [comment] at whole
    exact congrArg (c :: '*' :: ·) whole
  | case4 _ _ _ _ text rest string => simpa [string] using quoted_append c cs
  | case5 _ _ _ _ _ hex text rest number => simpa [number] using numberTail_append hex c cs
  | case6 => simp [List.takeWhile_append_dropWhile]
  | case7 _ _ _ _ _ _ _ text rest regex => exact congrArg (c :: ·) (regexTail_append regex)
  | case8 => rfl
  | case9 _ _ _ _ _ _ _ punct found =>
    have leads := List.find?_some found
    exact List.prefix_iff_eq_append.1 (List.isPrefixOf_iff_prefix.1 leads)
  | case10 => rfl

theorem punctuators_ne_nil : ∀ punct ∈ punctuators, punct.toList ≠ [] := by
  decide

theorem next_text_ne_nil (before : Option Token) (c : Char) (cs : List Char) :
    (next before c cs).1.text ≠ [] := by
  fun_cases next before c cs with
  | case9 _ _ _ _ _ _ _ punct found =>
    exact punctuators_ne_nil punct (List.mem_of_find?_eq_some found)
  | _ => simp

theorem next_rest_length (before : Option Token) (c : Char) (cs : List Char) :
    (next before c cs).2.length ≤ cs.length := by
  have whole := congrArg List.length (next_append before c cs)
  have taken := List.length_pos_iff.2 (next_text_ne_nil before c cs)
  simp only [List.length_append, List.length_cons] at whole
  omega

def token? (lexeme : Lexeme) (offset : Nat) : Option Token :=
  lexeme.kind.map fun kind => ⟨kind, String.ofList lexeme.text, offset⟩

/-- Lexemes of `source`, each with the byte at which it starts. `done` holds the lexemes
before it, the nearest first, and `before` the last token among them. -/
def scan (before : Option Token) (offset : Nat) (done : List (Lexeme × Nat))
    (source : List Char) : List (Lexeme × Nat) :=
  match source with
  | [] => done.reverse
  | c :: cs =>
    let lexeme := (next before c cs).1
    scan (lexeme.token? offset <|> before) (offset + Text.byteWidth lexeme.text)
      ((lexeme, offset) :: done) (next before c cs).2
termination_by source.length
decreasing_by
  have shorter := next_rest_length before c cs
  simp only [List.length_cons]
  omega

end Lexeme

def lexemes (source : String) : List (Lexeme × Nat) :=
  Lexeme.scan none 0 [] source.toList

def tokenize (source : String) : List Token :=
  (lexemes source).filterMap fun (lexeme, offset) => lexeme.token? offset

end PlayerCipher
