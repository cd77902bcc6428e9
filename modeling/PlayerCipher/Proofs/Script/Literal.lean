import PlayerCipher.Proofs.Script.Contents

/-! Literals and the braces inside them.
The grammar of string, template and regex literals, as the script language has it, or a little
wider. A literal is read as one token unless it is closed early: a string by a line feed that
belongs to an escaped line end, a template by a backtick in one of its substitutions. -/

namespace PlayerCipher

namespace Lexeme

/-- Whether no backslash at the end of the text hides what follows. -/
def isSettled : List Char → Bool
  | [] => true
  | '\\' :: [] => false
  | '\\' :: _ :: cs => isSettled cs
  | _ :: cs => isSettled cs

/-- Text between the quotes of a string. A backslash hides one character, or a line end of two. -/
inductive IsQuoted (quote : Char) : List Char → Prop where
  | nil : IsQuoted quote []
  | char {c : Char} {cs : List Char} (plain : c ≠ quote ∧ c ≠ '\\' ∧ c ≠ '\n' ∧ c ≠ '\r')
      (more : IsQuoted quote cs) : IsQuoted quote (c :: cs)
  | escape {c : Char} {cs : List Char} (more : IsQuoted quote cs) : IsQuoted quote ('\\' :: c :: cs)
  | lineEnd {cs : List Char} (more : IsQuoted quote cs) :
      IsQuoted quote ('\\' :: '\r' :: '\n' :: cs)

inductive IsClass : List Char → Prop where
  | nil : IsClass []
  | char {c : Char} {cs : List Char} (plain : c ≠ ']' ∧ c ≠ '\\' ∧ c ≠ '\n')
      (more : IsClass cs) : IsClass (c :: cs)
  | escape {c : Char} {cs : List Char} (line : c ≠ '\n') (more : IsClass cs) :
      IsClass ('\\' :: c :: cs)

inductive IsRegex : List Char → Prop where
  | nil : IsRegex []
  | char {c : Char} {cs : List Char} (plain : c ≠ '/' ∧ c ≠ '\\' ∧ c ≠ '[' ∧ c ≠ '\n')
      (more : IsRegex cs) : IsRegex (c :: cs)
  | escape {c : Char} {cs : List Char} (line : c ≠ '\n') (more : IsRegex cs) :
      IsRegex ('\\' :: c :: cs)
  | group {inner cs : List Char} (inside : IsClass inner) (more : IsRegex cs) :
      IsRegex ('[' :: (inner ++ ']' :: cs))

/-- A template is text with substitutions in it; a substitution is code with literals in it. -/
inductive Layer where
  | text
  | code

/-- Text between the backticks of a template, and between the braces of a substitution. -/
inductive IsTemplate : Layer → List Char → Prop where
  | nil {layer : Layer} : IsTemplate layer []
  | char {c : Char} {cs : List Char} (plain : c ≠ '\x60' ∧ c ≠ '\\')
      (alone : c = '$' → cs.head? ≠ some '\x7b') (more : IsTemplate .text cs) :
      IsTemplate .text (c :: cs)
  | escape {c : Char} {cs : List Char} (more : IsTemplate .text cs) :
      IsTemplate .text ('\\' :: c :: cs)
  | substitution {inner cs : List Char} (inside : IsTemplate .code inner)
      (more : IsTemplate .text cs) : IsTemplate .text ('$' :: '\x7b' :: (inner ++ '\x7d' :: cs))
  | plain {c : Char} {cs : List Char} (plain : c ∉ ['"', '\'', '\x60', '\x7b', '\x7d', '\\'])
      (more : IsTemplate .code cs) : IsTemplate .code (c :: cs)
  | string {quote : Char} {inner cs : List Char} (quotes : quote = '"' ∨ quote = '\'')
      (inside : IsQuoted quote inner) (more : IsTemplate .code cs) :
      IsTemplate .code (quote :: (inner ++ quote :: cs))
  | template {inner cs : List Char} (inside : IsTemplate .text inner)
      (more : IsTemplate .code cs) : IsTemplate .code ('\x60' :: (inner ++ '\x60' :: cs))
  | regex {inner cs : List Char} (inside : IsRegex inner) (more : IsTemplate .code cs) :
      IsTemplate .code ('/' :: (inner ++ '/' :: cs))
  | braces {inner cs : List Char} (inside : IsTemplate .code inner)
      (more : IsTemplate .code cs) : IsTemplate .code ('\x7b' :: (inner ++ '\x7d' :: cs))

variable {quote c : Char} {cs inner rest : List Char}

theorem isSettled_cons (plain : c ≠ '\\') : isSettled (c :: cs) = isSettled cs := by
  rw [isSettled]
  · exact fun same => absurd same plain
  · exact fun _ _ same => absurd same plain

theorem isSettled_append {left : List Char} (settled : isSettled left = true)
    (right : List Char) : isSettled (left ++ right) = isSettled right := by
  fun_induction isSettled left with
  | case1 => rfl
  | case2 => cases settled
  | case3 d cs ih => exact ih settled
  | case4 d cs single escaped ih =>
    rw [List.cons_append, isSettled_cons (ne_backslash single escaped), ih settled]

theorem isSettled_between (settled : isSettled inner = true) (plain : c ≠ '\\') :
    isSettled (inner ++ c :: cs) = isSettled cs := by
  rw [isSettled_append settled, isSettled_cons plain]

theorem IsQuoted.settled (written : IsQuoted quote cs) : isSettled cs = true := by
  induction written with
  | nil => rfl
  | char plain _ ih => rwa [isSettled_cons plain.2.1]
  | escape _ ih => exact ih
  | lineEnd _ ih =>
    rw [isSettled, isSettled_cons (by decide)]
    exact ih

theorem IsClass.settled (written : IsClass cs) : isSettled cs = true := by
  induction written with
  | nil => rfl
  | char plain _ ih => rwa [isSettled_cons plain.2.1]
  | escape _ _ ih => exact ih

theorem IsRegex.settled (written : IsRegex cs) : isSettled cs = true := by
  induction written with
  | nil => rfl
  | char plain _ ih => rwa [isSettled_cons plain.2.1]
  | escape _ _ ih => exact ih
  | group inside _ ih =>
    rwa [isSettled_cons (by decide), isSettled_between inside.settled (by decide)]

theorem IsTemplate.settled {layer : Layer} (written : IsTemplate layer cs) :
    isSettled cs = true := by
  induction written with
  | nil => rfl
  | char plain _ _ ih => rwa [isSettled_cons plain.2]
  | escape _ ih => exact ih
  | substitution _ _ inside more =>
    rwa [isSettled_cons (by decide), isSettled_cons (by decide),
      isSettled_between inside (by decide)]
  | plain plain _ ih =>
    rw [isSettled_cons]
    · exact ih
    · rintro rfl
      exact plain (by decide)
  | @string quote inner cs quotes inside _ more =>
    have plain : quote ≠ '\\' := by
      rcases quotes with rfl | rfl <;> decide
    rwa [isSettled_cons plain, isSettled_between inside.settled plain]
  | template _ _ inside more =>
    rwa [isSettled_cons (by decide), isSettled_between inside (by decide)]
  | regex inside _ more =>
    rwa [isSettled_cons (by decide), isSettled_between inside.settled (by decide)]
  | braces _ _ inside more =>
    rwa [isSettled_cons (by decide), isSettled_between inside (by decide)]

theorem not_hidden_quote (settled : isSettled inner = true) (plain : quote ≠ '\\') :
    isHidden quote (inner ++ [quote]) = false := by
  fun_induction isSettled inner with
  | case1 =>
    rw [List.nil_append, isHidden_cons plain]
    simp
  | case2 => cases settled
  | case3 d cs ih => exact ih settled
  | case4 d cs single escaped ih =>
    rw [List.cons_append, isHidden_cons (ne_backslash single escaped), ih settled, Bool.and_false]

theorem quoted_quote (is : isQuote quote = true) (rest : List Char) :
    quoted quote (quote :: rest) = ([quote], rest) := by
  have other : ¬(quote = '\n' ∧ quote ≠ '\x60') := by
    rintro ⟨rfl, -⟩
    cases is
  rw [quoted_cons (ne_backslash_of_isQuote is), if_neg other, if_pos rfl]

/-- A literal is read up to its closing quote if and only if the text before that hides in it. -/
theorem quoted_whole_iff (settled : isSettled inner = true) (is : isQuote quote = true) :
    (quoted quote (inner ++ quote :: rest)).1 = inner ++ [quote] ↔
      isHidden quote inner = true := by
  have plain := ne_backslash_of_isQuote is
  constructor
  · intro whole
    have ends := quoted_endsBy quote (inner ++ quote :: rest)
    have bare := not_hidden_quote settled plain
    rw [whole] at ends
    generalize text : inner ++ [quote] = piece at ends
    generalize (quoted quote (inner ++ quote :: rest)).2 = after at ends
    generalize endingOf quote (inner ++ quote :: rest) = ending at ends
    generalize inner ++ quote :: rest = source at ends
    cases ends with
    | quote hidden => rwa [List.append_cancel_right text]
    | lineFeed hidden =>
      rw [text, hidden] at bare
      cases bare
    | sourceEnd hidden =>
      rw [text, hidden] at bare
      cases bare
    | escapeEnd hidden =>
      have last := congrArg List.getLast? text
      rw [List.getLast?_concat, List.getLast?_concat] at last
      exact absurd (Option.some.inj last) plain
  · intro hidden
    rw [quoted_hidden hidden, quoted_quote is]

theorem quoted_cut_short (settled : isSettled inner = true) (exposed : isHidden quote inner = false)
    (rest : List Char) : ∃ more, inner = (quoted quote (inner ++ rest)).1 ++ more := by
  fun_induction isSettled inner with
  | case1 => cases exposed
  | case2 => cases settled
  | case3 d cs ih =>
    obtain ⟨more, cut⟩ := ih settled exposed
    refine ⟨more, ?_⟩
    rw [List.cons_append, List.cons_append, quoted, List.cons_append, List.cons_append, ← cut]
  | case4 d cs single escaped ih =>
    have plain := ne_backslash single escaped
    rw [List.cons_append, quoted_cons plain]
    split_ifs with feed ends
    · exact ⟨d :: cs, rfl⟩
    · exact ⟨cs, rfl⟩
    · have goes : (!(d == '\n' && quote != '\x60') && d != quote) = true := by
        simpa [ends, imp_iff_not_or] using feed
      rw [isHidden_cons plain, goes, Bool.true_and] at exposed
      obtain ⟨more, cut⟩ := ih settled exposed
      exact ⟨more, by rw [List.cons_append, ← cut]⟩

/-- A string hides its text unless an escaped line end of two characters stands in it. -/
theorem IsQuoted.hidden_iff (written : IsQuoted quote cs) (single : quote ≠ '\x60') :
    isHidden quote cs = true ↔ ¬['\r', '\n'] <:+: cs := by
  have later : ∀ {c : Char} {cs : List Char}, (c = '\r' → cs.head? ≠ some '\n') →
      (['\r', '\n'] <:+: c :: cs ↔ ['\r', '\n'] <:+: cs) := by
    intro c cs apart
    rw [List.infix_cons_iff, or_iff_right]
    rintro ⟨more, whole⟩
    rw [List.cons_append, List.cons.injEq] at whole
    refine apart whole.1.symm ?_
    rw [← whole.2]
    rfl
  have noFeed : ∀ {cs : List Char}, IsQuoted quote cs → cs.head? ≠ some '\n' := by
    intro cs written first
    cases written with
    | nil => cases first
    | char plain => exact plain.2.2.1 (Option.some.inj first)
    | escape => cases first
    | lineEnd => cases first
  induction written with
  | nil => simp [isHidden]
  | @char c cs plain more ih =>
    obtain ⟨other, slash, feed, carriage⟩ := plain
    have passes : isHidden quote (c :: cs) = isHidden quote cs := by
      rw [isHidden_cons slash]
      simp [feed, other]
    rw [passes, later fun same => absurd same carriage]
    exact ih
  | @escape c cs more ih =>
    rw [isHidden, later fun same => absurd same (by decide), later fun _ => noFeed more]
    exact ih
  | @lineEnd cs more ih =>
    have stops : isHidden quote ('\n' :: cs) = false := by
      rw [isHidden_cons (by decide)]
      simp [single]
    rw [isHidden, stops]
    refine iff_of_false (by decide) (not_not.2 ?_)
    exact ⟨['\\'], cs, rfl⟩

theorem regexTail_class (inside : IsClass inner) (rest : List Char) :
    regexTail true (inner ++ ']' :: rest) =
      (regexTail false rest).map fun (text, after) => (inner ++ ']' :: text, after) := by
  induction inside with
  | nil =>
    rw [List.nil_append, regexTail_cons (by decide)]
    rfl
  | @char c cs plain _ ih =>
    obtain ⟨closes, slash, line⟩ := plain
    have stays : (if c = '[' then true else if c = ']' then false else true) = true := by
      simp [closes]
    rw [List.cons_append, regexTail_cons slash, if_neg line, if_neg (by simp), stays, ih,
      Option.map_map]
    rfl
  | @escape c cs _ _ ih =>
    rw [List.cons_append, List.cons_append, regexTail, ih, Option.map_map]
    rfl

theorem regexTail_body (body : IsRegex cs) (rest : List Char) :
    regexTail false (cs ++ rest) =
      (regexTail false rest).map fun (text, after) => (cs ++ text, after) := by
  induction body with
  | nil => simp
  | @char c cs plain _ ih =>
    obtain ⟨closes, slash, opens, line⟩ := plain
    have stays : (if c = '[' then true else if c = ']' then false else false) = false := by
      simp [opens]
    rw [List.cons_append, regexTail_cons slash, if_neg line, if_neg (by simp [closes]), stays, ih,
      Option.map_map]
    rfl
  | @escape c cs _ _ ih =>
    rw [List.cons_append, List.cons_append, regexTail, ih, Option.map_map]
    rfl
  | @group inner cs inside _ ih =>
    have enters : (if '[' = '[' then true else if '[' = ']' then false else false) = true := rfl
    rw [List.cons_append, List.append_assoc, List.cons_append, regexTail_cons (by decide),
      if_neg (by decide), if_neg (by decide), enters, regexTail_class inside, ih, Option.map_map,
      Option.map_map]
    congr 1
    funext found
    simp

theorem next_quoted (is : isQuote quote = true) (hidden : isHidden quote inner = true)
    (before : Option Token) (rest : List Char) :
    next before quote (inner ++ quote :: rest) =
      (⟨some .str, quote :: (inner ++ [quote])⟩, rest) := by
  rw [next_isQuote is, quoted_hidden hidden, quoted_quote is]

theorem next_regex {before : Option Token} {body flags : List Char} (written : IsRegex body)
    (begins : ∃ c ∈ body.head?, c ≠ '*') (letters : flags.all Char.isAlpha = true)
    (may : regexMayFollow before = true) (stops : rest.head?.any Char.isAlpha = false) :
    next before '/' (body ++ '/' :: (flags ++ rest)) =
      (⟨some .regex, '/' :: (body ++ '/' :: flags)⟩, rest) := by
  obtain ⟨c, first, star⟩ := begins
  have head : (body ++ '/' :: (flags ++ rest)).head? = some c := by
    rw [List.head?_append, first]
    rfl
  have slash : c ≠ '/' := by
    rintro rfl
    cases written with
    | nil => cases first
    | char plain => exact plain.1 (Option.some.inj first)
    | escape => cases first
    | group => cases first
  have line : (body ++ '/' :: (flags ++ rest)).head? ≠ some '/' := by
    simpa [head] using slash
  have block : (body ++ '/' :: (flags ++ rest)).head? ≠ some '*' := by
    simpa [head] using star
  obtain ⟨taken, left⟩ := takeWhile_run letters stops
  have tail : regexTail false (body ++ '/' :: (flags ++ rest)) =
      some (body ++ '/' :: flags, rest) := by
    rw [regexTail_body written, regexTail_cons (by decide), if_neg (by decide),
      if_pos ⟨rfl, rfl⟩, taken, left]
    rfl
  exact next_regexTail line block may tail

theorem cut_at_byte {ahead ahead' cs cs' : List Char} (whole : ahead ++ cs = ahead' ++ cs')
    (place : Text.byteWidth ahead = Text.byteWidth ahead') : ahead = ahead' ∧ cs = cs' := by
  rcases List.append_eq_append_iff.1 whole with ⟨more, rfl, rfl⟩ | ⟨more, rfl, rfl⟩ <;>
    rw [Text.byteWidth_append] at place
  · cases more with
    | nil => simp
    | cons d more =>
      have wide := Text.byteWidth_pos (List.cons_ne_nil d more)
      omega
  · cases more with
    | nil => simp
    | cons d more =>
      have wide := Text.byteWidth_pos (List.cons_ne_nil d more)
      omega

theorem placed_append (left right : List Lexeme) :
    ∀ offset, placed offset (left ++ right) =
      placed offset left ++ placed (offset + Text.byteWidth (written left)) right := by
  induction left with
  | nil =>
    intro offset
    rfl
  | cons lexeme left ih =>
    intro offset
    simp only [List.cons_append, placed, ih, written_cons, Text.byteWidth_append, Nat.add_assoc]

theorem scan_lexeme {before : Option Token} {lexeme : Lexeme} (text : lexeme.text = c :: cs)
    (read : next before c (cs ++ rest) = (lexeme, rest)) (offset : Nat)
    (done : List (Lexeme × Nat)) :
    scan before offset done (lexeme.text ++ rest) =
      scan (lexeme.token? offset <|> before) (offset + Text.byteWidth lexeme.text)
        ((lexeme, offset) :: done) rest := by
  conv =>
    lhs
    rw [text, List.cons_append, scan, read]

theorem mem_scan {before : Option Token} {offset : Nat} {done : List (Lexeme × Nat)}
    {lexeme : Lexeme × Nat} (member : lexeme ∈ done) (source : List Char) :
    lexeme ∈ scan before offset done source := by
  obtain ⟨later, read, -⟩ := scan_reading before offset done source
  rw [read]
  exact List.mem_append_left _ (List.mem_reverse.2 member)

end Lexeme

open Lexeme

inductive Literal where
  | quoted (quote : Char) (inner : List Char) (quotes : quote = '"' ∨ quote = '\'')
      (written : IsQuoted quote inner)
  | template (inner : List Char) (written : IsTemplate .text inner)
  | regex (body flags : List Char) (written : IsRegex body) (begins : ∃ c ∈ body.head?, c ≠ '*')
      (letters : flags.all Char.isAlpha = true)

namespace Literal

def kind : Literal → Token.Kind
  | quoted .. | template .. => .str
  | regex .. => .regex

def text : Literal → List Char
  | quoted quote inner .. => quote :: (inner ++ [quote])
  | template inner _ => '\x60' :: (inner ++ ['\x60'])
  | regex body flags .. => '/' :: (body ++ '/' :: flags)

def lexeme (literal : Literal) : Lexeme :=
  ⟨some literal.kind, literal.text⟩

def view (literal : Literal) : Token.Kind × String :=
  (literal.kind, String.ofList literal.text)

/-- Whether nothing inside the literal ends it early: no escaped line end of two characters in a
string, and no backtick in a template that no backslash hides. -/
def IsPlain : Literal → Prop
  | quoted _ inner .. => ¬['\r', '\n'] <:+: inner
  | template inner _ => isHidden '\x60' inner = true
  | regex .. => True

/-- A function that assigns the literal to a variable. -/
def script (literal : Literal) : String :=
  String.ofList ("f=function(a)\x7bx=".toList ++ literal.text ++ ";a.reverse()\x7d;".toList)

def front : List Lexeme :=
  [word "f", mark '=', word "function", mark '(', word "a", mark ')', mark '\x7b', word "x"]

def back : List Lexeme :=
  [mark ';', word "a", mark '.', word "reverse", mark '(', mark ')', mark '\x7d', mark ';']

variable {literal : Literal} {before : Option Token} {rest : List Char}

theorem isPlain_quoted_iff {quote : Char} {inner : List Char} {quotes : quote = '"' ∨ quote = '\''}
    {written : IsQuoted quote inner} :
    (quoted quote inner quotes written).IsPlain ↔ isHidden quote inner = true := by
  refine (written.hidden_iff ?_).symm
  rcases quotes with rfl | rfl <;> decide

theorem isQuote_of_single {quote : Char} (quotes : quote = '"' ∨ quote = '\'') :
    isQuote quote = true := by
  rcases quotes with rfl | rfl <;> rfl

theorem next_literal (plain : literal.IsPlain) (may : regexMayFollow before = true)
    (rest : List Char) (stops : rest.head?.any Char.isAlpha = false) :
    ∃ c cs, literal.text = c :: cs ∧ next before c (cs ++ rest) = (literal.lexeme, rest) := by
  cases literal with
  | quoted quote inner quotes written =>
    refine ⟨quote, _, rfl, ?_⟩
    rw [List.append_assoc, List.singleton_append,
      next_quoted (isQuote_of_single quotes) (isPlain_quoted_iff.1 plain)]
    rfl
  | template inner written =>
    refine ⟨'\x60', _, rfl, ?_⟩
    rw [List.append_assoc, List.singleton_append, next_quoted rfl plain]
    rfl
  | regex body flags written begins letters =>
    refine ⟨'/', _, rfl, ?_⟩
    rw [List.append_assoc, List.cons_append, next_regex written begins letters may stops]
    rfl

theorem equals_ends (literal : Literal) (rest : List Char) :
    isMarkBefore (literal.text ++ rest).head? '=' = true := by
  cases literal with
  | quoted quote inner quotes => rcases quotes with rfl | rfl <;> rfl
  | template => rfl
  | regex => rfl

theorem toList_script (literal : Literal) :
    literal.script.toList =
      "f=function(a)\x7bx=".toList ++ (literal.text ++ ";a.reverse()\x7d;".toList) :=
  String.toList_ofList.trans (List.append_assoc _ _ _)

theorem scan_front (literal : Literal) : ∃ before, regexMayFollow before = true ∧
    lexemes literal.script =
      scan before 16 ((mark '=', 15) :: (placed 0 front).reverse) (literal.text ++ written back) := by
  have source : literal.script.toList =
      written front ++ ((mark '=').text ++ (literal.lexeme.text ++ written back)) :=
    literal.toList_script
  obtain ⟨before, readFront⟩ :=
    scan_compact ((mark '=').text ++ (literal.lexeme.text ++ written back)) front none 0 [] rfl
  have readEquals := next_mark (equals_ends literal (written back)) before
  refine ⟨(mark '=').token? 15 <|> before, rfl, ?_⟩
  rw [lexemes, source, readFront, scan_lexeme rfl readEquals, List.append_nil]
  rfl

theorem tokenize_script (plain : literal.IsPlain) :
    tokenize literal.script = tokensFrom 0 (front ++ mark '=' :: literal.lexeme :: back) := by
  obtain ⟨before, may, readFront⟩ := literal.scan_front
  obtain ⟨c, cs, text, readLiteral⟩ := next_literal plain may (written back) rfl
  obtain ⟨after, readBack⟩ := scan_compact [] back _ _ _ rfl
  rw [List.append_nil, scan] at readBack
  have read : lexemes literal.script = placed 0 (front ++ mark '=' :: literal.lexeme :: back) := by
    have literalText : literal.text = literal.lexeme.text := rfl
    have width : Text.byteWidth (written front) = 15 := rfl
    have markWidth : Text.byteWidth (mark '=').text = 1 := rfl
    rw [readFront, literalText, scan_lexeme text readLiteral, readBack, placed_append]
    simp [placed, width, markWidth]
  rw [tokenize, read, filterMap_placed]

theorem definitions_tokensFrom (literal : Literal) :
    definitions (tokensFrom 0 (front ++ mark '=' :: literal.lexeme :: back)) =
      [⟨some "f", ["a"], tokensFrom 14 (word "x" :: mark '=' :: literal.lexeme :: back.take 6), 7,
        2⟩] := by
  have found : Definition.scan [] [] 0
      (tokensFrom 0 (front ++ mark '=' :: literal.lexeme :: back)) =
        [⟨some "f", ["a"], tokensFrom 14 (word "x" :: mark '=' :: literal.lexeme :: back.take 6), 7,
          2⟩] := by
    cases literal <;> rfl
  rw [definitions, found, List.mergeSort_singleton]

theorem isPlain_or_quoted (literal : Literal) : literal.IsPlain ∨ ∃ quote inner,
    isQuote quote = true ∧ isSettled inner = true ∧ literal.text = quote :: (inner ++ [quote]) ∧
      (literal.IsPlain ↔ isHidden quote inner = true) := by
  cases literal with
  | quoted quote inner quotes written =>
    exact .inr ⟨quote, inner, isQuote_of_single quotes, written.settled, rfl, isPlain_quoted_iff⟩
  | template inner written => exact .inr ⟨'\x60', inner, rfl, written.settled, rfl, Iff.rfl⟩
  | regex => exact .inl trivial

theorem isPlain_of_token {token : Token} (member : token ∈ tokenize literal.script)
    (place : token.offset = 16) (whole : token.text.toList = literal.text) : literal.IsPlain := by
  rcases literal.isPlain_or_quoted with plain | ⟨quote, inner, is, settled, text, plain_iff⟩
  · exact plain
  obtain ⟨ahead, before, c, cs, rest, source, starts, read⟩ := exists_read member
  have cut := cut_at_byte (source.symm.trans literal.toList_script) (starts.symm.trans place)
  rw [text, List.cons_append, List.append_assoc] at cut
  obtain ⟨rfl, rfl⟩ := List.cons.inj cut.2
  rw [next_isQuote is, whole, text] at read
  have same := congrArg (fun lexeme => lexeme.1.text) read
  exact plain_iff.2 ((quoted_whole_iff settled is).1 (List.cons.inj same).2)

theorem exists_cut_short (early : ¬literal.IsPlain) : ∃ token ∈ tokenize literal.script,
    token.offset = 16 ∧ ∃ more, more ≠ [] ∧ literal.text = token.text.toList ++ more := by
  rcases literal.isPlain_or_quoted with plain | ⟨quote, inner, is, settled, text, plain_iff⟩
  · exact absurd plain early
  have exposed : isHidden quote inner = false := by
    rw [← Bool.not_eq_true, ← plain_iff]
    exact early
  obtain ⟨more, cut⟩ := quoted_cut_short settled exposed (quote :: written back)
  obtain ⟨before, -, read⟩ := literal.scan_front
  have source : literal.text ++ written back = quote :: (inner ++ quote :: written back) := by
    simp [text]
  rw [source, scan, next_isQuote is] at read
  let piece := quote :: (Lexeme.quoted quote (inner ++ quote :: written back)).1
  have member : (⟨some .str, piece⟩, 16) ∈ lexemes literal.script := by
    rw [read]
    exact mem_scan (.head _) _
  refine ⟨⟨.str, String.ofList piece, 16⟩, List.mem_filterMap.2 ⟨_, member, rfl⟩, rfl,
    more ++ [quote], by simp, ?_⟩
  rw [String.toList_ofList, text, List.cons_append, ← List.append_assoc, ← cut]

end Literal

/-- A literal inside a function's body is read as one token unless it is ended early, and then the
body is found whole, whatever quotes, slashes and braces stand in the literal. -/
theorem definitions_literal (literal : Literal) :
    (literal.IsPlain ↔ ∃ token ∈ tokenize literal.script,
      token.offset = 16 ∧ token.text.toList = literal.text) ∧
    (¬literal.IsPlain → ∃ token ∈ tokenize literal.script,
      token.offset = 16 ∧ ∃ more, more ≠ [] ∧ literal.text = token.text.toList ++ more) ∧
    (literal.IsPlain →
      (tokenize literal.script).map Token.view =
        (tokenize "f=function(a)\x7bx=").map Token.view ++
          literal.view :: (tokenize ";a.reverse()\x7d;").map Token.view ∧
      ∃ f, definitions (tokenize literal.script) = [f] ∧ f.name = some "f" ∧ f.params = ["a"] ∧
        f.body.map Token.view =
          (tokenize "x=").map Token.view ++
            literal.view :: (tokenize ";a.reverse()").map Token.view) := by
  refine ⟨⟨fun plain => ?_, fun ⟨token, member, place, whole⟩ => ?_⟩,
    Literal.exists_cut_short, fun plain => ?_⟩
  · rw [Literal.tokenize_script plain, tokensFrom_append]
    refine ⟨⟨literal.kind, String.ofList literal.text, 16⟩, ?_, rfl, String.toList_ofList⟩
    exact List.mem_append_right _ (.tail _ (.head _))
  · exact Literal.isPlain_of_token member place whole
  have ahead : tokenize "f=function(a)\x7bx=" = tokensFrom 0 (Literal.front ++ [mark '=']) :=
    @tokenize_written (Literal.front ++ [mark '=']) rfl
  have behind : tokenize ";a.reverse()\x7d;" = tokensFrom 0 Literal.back :=
    @tokenize_written Literal.back rfl
  have start : tokenize "x=" = tokensFrom 0 [word "x", mark '='] :=
    @tokenize_written [word "x", mark '='] rfl
  have last : tokenize ";a.reverse()" = tokensFrom 0 (Literal.back.take 6) :=
    @tokenize_written (Literal.back.take 6) rfl
  rw [Literal.tokenize_script plain, ahead, behind, start, last, literal.definitions_tokensFrom]
  exact ⟨rfl, _, rfl, rfl, rfl, rfl⟩

/-- A template with a string in its substitution hides all its braces. -/
theorem definitions_literal_template :
    ∃ literal : Literal,
      literal.script = "f=function(a)\x7bx=\x60\x7d$\x7b\"\x7d\"\x7d\x60;a.reverse()\x7d;" ∧
      literal.IsPlain ∧ ∃ f, definitions (tokenize literal.script) = [f] ∧ f.name = some "f" := by
  have string : IsQuoted '"' ['\x7d'] := .char (by decide) .nil
  have code : IsTemplate .code ['"', '\x7d', '"'] :=
    @IsTemplate.string '"' ['\x7d'] [] (.inl rfl) string .nil
  have text : IsTemplate .text ['\x7d', '$', '\x7b', '"', '\x7d', '"', '\x7d'] :=
    .char (by decide) (by decide) (@IsTemplate.substitution ['"', '\x7d', '"'] [] code .nil)
  let literal : Literal := .template _ text
  have plain : literal.IsPlain := rfl
  obtain ⟨f, only, name, -⟩ := ((definitions_literal literal).2.2 plain).2
  exact ⟨literal, rfl, plain, f, only, name⟩

/-- An escaped line end of two characters in a string and a template in another's substitution let
a brace out, which ends the body. -/
theorem definitions_exposed_brace :
    let continued := "f=function(a)\x7bx=\"\\\x0d\n\x7d\";a.reverse()\x7d;"
    let nested := "f=function(a)\x7bx=\x60$\x7b\x60\x7d\x60\x7d\x60;a.reverse()\x7d;"
    (∃ literal : Literal, literal.script = continued) ∧
      (definitions (tokenize continued)).map (fun f => f.body.map Token.text) =
        [["x", "=", "\"\\\x0d"]] ∧
      (∃ literal : Literal, literal.script = nested) ∧
      (definitions (tokenize nested)).map (fun f => f.body.map Token.text) =
        [["x", "=", "\x60$\x7b\x60"]] := by
  have string : IsQuoted '"' ['\\', '\r', '\n', '\x7d'] := .lineEnd (.char (by decide) .nil)
  have inner : IsTemplate .text ['\x7d'] := .char (by decide) (by decide) .nil
  have code : IsTemplate .code ['\x60', '\x7d', '\x60'] := .template inner .nil
  have text : IsTemplate .text ['$', '\x7b', '\x60', '\x7d', '\x60', '\x7d'] :=
    .substitution code .nil
  refine ⟨⟨.quoted _ _ (.inl rfl) string, rfl⟩, ?_, ⟨.template _ text, rfl⟩, ?_⟩
  · decide +kernel
  · decide +kernel

end PlayerCipher
