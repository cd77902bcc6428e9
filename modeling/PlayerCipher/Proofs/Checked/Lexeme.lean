import PlayerCipher.Proofs.Checked.Literal

/-! The checked tokenizer.
It goes through the bytes of the source, and takes each token's text out of the source by the bytes
where it starts and ends. It never meets a fault, and finds the tokens of the source. -/

namespace PlayerCipher

namespace Checked

open Text Lexeme

def offsetOf? (mark : List Char) : List Char → Option Nat
  | [] => none
  | c :: cs =>
    if mark.isPrefixOf (c :: cs) then some 0 else (offsetOf? mark cs).map (c.utf8Size + ·)

def scanComment (source : String) (bytes : List UInt8) (start : Nat) : Checked Nat := do
  let rest ← text source (start + 2) bytes.length
  match offsetOf? ['*', '/'] rest.toList with
  | some n => return start + 2 + n + 2
  | none => return bytes.length

/-- Kind of the token at a place, with the place behind it; none for a stray character. -/
def tokenAt (source : String) (bytes : List UInt8) (before : Option Token) (i : Nat)
    (byte : UInt8) : Checked (Option (Token.Kind × Nat)) := do
  if isByte isQuote byte then
    let stop ← scanString bytes i
    return some (.str, stop)
  else if isByte Char.isDigit byte ||
      (isByte (· == '.') byte && (bytes[i + 1]?).any (isByte Char.isDigit)) then
    let stop ← scanNumber bytes i
    return some (.number, stop)
  else if isIdentByte byte then
    let stop ← skipWhile isIdentByte bytes i
    return some (.ident, stop)
  else if isByte (· == '/') byte && regexMayFollow before then
    match ← scanRegex bytes i with
    | some stop => return some (.regex, stop)
    | none => return some (.punct, i + 1)
  else
    let rest ← text source i bytes.length
    match punctuators.find? fun punct => punct.toList.isPrefixOf rest.toList with
    | some punct => return some (.punct, i + punct.utf8ByteSize)
    | none => return none

def tokenPass (source : String) (bytes : List UInt8) (found : List Token) (i : Nat) :
    Checked (Pass (List Token) (List Token)) := do
  let byte ← get bytes i
  if isByte isLayout byte then return .next (i + 1) found
  else if isByte (· == '/') byte && (bytes[i + 1]?).any (isByte (· == '/')) then
    let stop ← skipWhile (fun byte => !isByte (· == '\n') byte) bytes i
    return .next stop found
  else if isByte (· == '/') byte && (bytes[i + 1]?).any (isByte (· == '*')) then
    let stop ← scanComment source bytes i
    return .next stop found
  else
    match ← tokenAt source bytes found.head? i byte with
    | some (kind, stop) =>
      let piece ← text source i stop
      return .next stop (⟨kind, piece, i⟩ :: found)
    | none => return .next (i + 1) found

/-- The tokens of a source. The loop holds those found so far, the latest first. -/
def tokenize (source : String) : Checked (List Token) :=
  let bytes := encodeUtf8 source.toList
  loop bytes.length (tokenPass source bytes) (fun found _ => found.reverse) [] 0

theorem offsetOf?_blockComment (cs : List Char) :
    byteWidth (blockComment cs).1 =
      match offsetOf? ['*', '/'] cs with
      | some n => n + 2
      | none => byteWidth cs := by
  fun_induction blockComment cs with
  | case1 => rfl
  | case2 cs => rfl
  | case3 c cs other text rest inner ih =>
    have here : ¬ List.isPrefixOf ['*', '/'] (c :: cs) = true := by
      rw [List.isPrefixOf_iff_prefix]
      rintro ⟨behind, whole⟩
      rw [List.cons_append, List.cons.injEq] at whole
      exact other behind whole.1.symm whole.2.symm
    rw [inner] at ih
    rw [offsetOf?, if_neg here]
    dsimp only at ih ⊢
    rw [byteWidth_cons, ih]
    cases offsetOf? ['*', '/'] cs with
    | none => exact (byteWidth_cons c cs).symm
    | some n => exact (Nat.add_assoc _ _ _).symm

def Stands (source : String) (place : Nat) (rest : List Char) : Prop :=
  ∃ before, source.toList = before ++ rest ∧ place = byteWidth before

namespace Stands

variable {source : String} {place : Nat}

theorem reads {rest : List Char} (stands : Stands source place rest) :
    Reads (encodeUtf8 source.toList) place rest := by
  obtain ⟨before, whole, rfl⟩ := stands
  have start : Reads (encodeUtf8 source.toList) 0 (before ++ rest) := whole ▸ .start _
  have moved := start.move
  rwa [Nat.zero_add] at moved

theorem move {piece rest : List Char} (stands : Stands source place (piece ++ rest)) :
    Stands source (place + byteWidth piece) rest := by
  obtain ⟨before, whole, rfl⟩ := stands
  exact ⟨before ++ piece, by rw [whole, List.append_assoc], (byteWidth_append _ _).symm⟩

theorem text {piece rest : List Char} (stands : Stands source place (piece ++ rest)) :
    Checked.text source place (place + byteWidth piece) = .ok (String.ofList piece) := by
  obtain ⟨before, whole, rfl⟩ := stands
  exact text_ok (whole.trans (List.append_assoc _ _ _).symm) rfl rfl

theorem rest {rest : List Char} (stands : Stands source place rest) :
    Checked.text source place (encodeUtf8 source.toList).length = .ok (String.ofList rest) := by
  rw [stands.reads.length]
  exact @Stands.text source place rest [] (by rwa [List.append_nil])

end Stands

variable {source : String} {place : Nat} {c : Char} {cs : List Char}

theorem scanComment_ok (stands : Stands source place ('/' :: '*' :: cs)) :
    scanComment source (encodeUtf8 source.toList) place =
      .ok (place + byteWidth ('/' :: '*' :: (blockComment cs).1)) := by
  have behind : Stands source (place + 2) cs := @Stands.move _ _ ['/', '*'] cs stands
  have total := behind.reads.length
  have slash : ('/' : Char).utf8Size = 1 := rfl
  have star : ('*' : Char).utf8Size = 1 := rfl
  have width := offsetOf?_blockComment cs
  rw [scanComment, behind.rest, ok_bind, String.toList_ofList, byteWidth_cons, byteWidth_cons,
    slash, star]
  cases ends : offsetOf? ['*', '/'] cs with
  | none =>
    simp only [ends] at width
    simp only [total, width, pure_eq_ok, ← Nat.add_assoc]
  | some n =>
    simp only [ends] at width
    simp only [width, pure_eq_ok, ← Nat.add_assoc]

theorem peek_slash (stands : Stands source place (c :: cs)) {byte : UInt8} {d : Char}
    (first : isByte (· == '/') byte = (c == '/')) (ascii : isAscii d = true) :
    (isByte (· == '/') byte &&
      ((encodeUtf8 source.toList)[place + 1]?).any (isByte (· == d))) =
        decide (c = '/' ∧ cs.head? = some d) := by
  by_cases slash : c = '/'
  · subst slash
    have behind : Reads (encodeUtf8 source.toList) (place + 1) cs := stands.reads.tail
    rw [first, behind.peek]
    cases cs with
    | nil => simp
    | cons e es =>
      by_cases same : e = d
      · simp [same, ascii]
      · simp [same]
  · simp [first, slash]

theorem peek_point (stands : Stands source place (c :: cs)) {byte : UInt8}
    (first : isByte (· == '.') byte = (c == '.')) :
    (isByte (· == '.') byte &&
      ((encodeUtf8 source.toList)[place + 1]?).any (isByte Char.isDigit)) =
        (c == '.' && (cs.head?.map Char.isDigit).getD false) := by
  by_cases point : c = '.'
  · subst point
    have behind : Reads (encodeUtf8 source.toList) (place + 1) cs := stands.reads.tail
    rw [first, behind.peek]
    cases cs with
    | nil => rfl
    | cons d ds =>
      cases digit : d.isDigit with
      | true => simp [digit, isAscii_of_isDigit digit]
      | false => simp [digit]
  · rw [first, beq_eq_false_iff_ne.2 point]
    rfl

theorem tokenAt_ok {before : Option Token} {byte : UInt8} (stands : Stands source place (c :: cs))
    (found : (encodeUtf8 source.toList)[place]? = some byte)
    (first : ∀ p, isByte p byte = (isAscii c && p c))
    (layout : ¬ isLayout c = true) (line : ¬ (c = '/' ∧ cs.head? = some '/'))
    (block : ¬ (c = '/' ∧ cs.head? = some '*')) :
    tokenAt source (encodeUtf8 source.toList) before place byte =
      .ok ((next before c cs).1.kind.map fun kind =>
        (kind, place + byteWidth (next before c cs).1.text)) := by
  have reads := stands.reads
  have quotes : isByte isQuote byte = isQuote c := isByte_ascii (first _) isAscii_of_isQuote
  have digit : isByte Char.isDigit byte = c.isDigit := isByte_ascii (first _) isAscii_of_isDigit
  have point := peek_point stands (is_ascii first rfl)
  have slash : isByte (· == '/') byte = (c == '/') := is_ascii first rfl
  have ident : isIdentByte byte = isIdentChar c := by
    obtain ⟨other, same, ident⟩ := isIdentByte_first reads
    rw [found, Option.some.injEq] at same
    rw [same, ident]
  unfold tokenAt next
  rw [if_neg layout, if_neg line, if_neg block]
  simp only [quotes, digit, point, slash, ident]
  by_cases quote : isQuote c = true
  · rw [if_pos quote, if_pos quote, scanString_ok reads quote]
    rfl
  rw [if_neg quote, if_neg quote]
  by_cases number : (c.isDigit || (c == '.' && (cs.head?.map Char.isDigit).getD false)) = true
  · have begins : isNumberChar c = true := by
      rw [Bool.or_eq_true, Bool.and_eq_true] at number
      rcases number with digit | point
      · rw [isNumberChar, Char.isAlphanum, digit, Bool.or_true]
        rfl
      · rw [isNumberChar, point.1, Bool.or_true]
    rw [if_pos number, if_pos number, scanNumber_ok reads begins]
    rfl
  rw [if_neg number, if_neg number]
  by_cases word : isIdentChar c = true
  · rw [if_pos word, if_pos word, skipIdent_ok reads, List.takeWhile_cons_of_pos word]
    rfl
  rw [if_neg word, if_neg word]
  have condition : (c == '/' && regexMayFollow before) = true ↔
      c = '/' ∧ regexMayFollow before = true := by
    rw [Bool.and_eq_true, beq_iff_eq]
  by_cases regex : c = '/' ∧ regexMayFollow before = true
  · rw [if_pos (condition.2 regex), if_pos regex]
    obtain ⟨rfl, -⟩ := regex
    rw [scanRegex_ok reads]
    cases regexTail false cs <;> rfl
  rw [if_neg (mt condition.1 regex), if_neg regex, stands.rest, ok_bind, String.toList_ofList]
  cases punctuators.find? fun punct => punct.toList.isPrefixOf (c :: cs) with
  | none => rfl
  | some punct =>
    simp only [utf8ByteSize_toList, pure_eq_ok, Option.map_some]

theorem byteWidth_ascii (ascii : isAscii c = true) : byteWidth [c] = 1 := by
  rw [byteWidth_cons, utf8Size_of_isAscii ascii]
  rfl

theorem width_stray {before : Option Token} (layout : ¬ isLayout c = true)
    (line : ¬ (c = '/' ∧ cs.head? = some '/')) (block : ¬ (c = '/' ∧ cs.head? = some '*'))
    (stray : (next before c cs).1.kind = none) : byteWidth (next before c cs).1.text = 1 := by
  unfold next at stray ⊢
  rw [if_neg layout, if_neg line, if_neg block] at stray ⊢
  split_ifs at stray ⊢ with quote number word regex
  · cases ends : regexTail false cs <;> simp [ends] at stray
  · have ascii : isAscii c = true := by
      rw [isIdentChar, Bool.or_eq_true, not_or] at word
      simpa using word.2
    cases mark : punctuators.find? fun punct => punct.toList.isPrefixOf (c :: cs) with
    | none => exact byteWidth_ascii ascii
    | some punct => simp [mark] at stray

theorem tokenPass_ok (found : List Token) (stands : Stands source place (c :: cs)) :
    tokenPass source (encodeUtf8 source.toList) found place =
      .ok (.next (place + byteWidth (next found.head? c cs).1.text)
        (((next found.head? c cs).1.token? place).toList ++ found)) := by
  obtain ⟨byte, read, first, -⟩ := stands.reads.first
  have slash : isByte (· == '/') byte = (c == '/') := is_ascii first rfl
  have layouts : isByte isLayout byte = isLayout c := isByte_ascii (first _) isAscii_of_isLayout
  have lines := @peek_slash source place c cs stands byte '/' slash rfl
  have blocks := @peek_slash source place c cs stands byte '*' slash rfl
  simp only [tokenPass, get_ok read, ok_bind, layouts, lines, blocks, decide_eq_true_eq]
  by_cases layout : isLayout c = true
  · rw [if_pos layout, next, if_pos layout, byteWidth_ascii (isAscii_of_isLayout layout)]
    rfl
  rw [if_neg layout]
  by_cases line : c = '/' ∧ cs.head? = some '/'
  · have run : (c :: cs).takeWhile (· != '\n') = c :: cs.takeWhile (· != '\n') := by
      rw [line.1]
      rfl
    rw [if_pos line, skipLine_ok stands.reads, next, if_neg layout, if_pos line, run]
    rfl
  rw [if_neg line]
  by_cases block : c = '/' ∧ cs.head? = some '*'
  · rw [if_pos block, next, if_neg layout, if_neg line, if_pos block]
    obtain ⟨rfl, star⟩ := block
    obtain ⟨ds, rfl⟩ := List.head?_eq_some_iff.1 star
    rw [scanComment_ok stands]
    rfl
  rw [if_neg block, tokenAt_ok stands read first layout line block]
  cases kind : (next found.head? c cs).1.kind with
  | none =>
    rw [width_stray layout line block kind, token?, kind]
    rfl
  | some kind =>
    have piece := stands
    rw [← next_append found.head? c cs] at piece
    simp only [Option.map_some, ok_bind, piece.text, pure_eq_ok, token?, kind, Option.toList_some,
      List.singleton_append]

def tokensOf (lexemes : List (Lexeme × Nat)) : List Token :=
  lexemes.filterMap fun (lexeme, offset) => lexeme.token? offset

theorem tokensOf_cons (lexeme : Lexeme) (offset : Nat) (lexemes : List (Lexeme × Nat)) :
    tokensOf ((lexeme, offset) :: lexemes) =
      (lexeme.token? offset).toList ++ tokensOf lexemes := by
  cases found : lexeme.token? offset <;> simp [tokensOf, found]

theorem tokenize_loop (before : Option Token) (offset : Nat) (done : List (Lexeme × Nat))
    (rest : List Char) :
    Stands source offset rest → (tokensOf done).head? = before →
      loop (encodeUtf8 source.toList).length (tokenPass source (encodeUtf8 source.toList))
          (fun found _ => found.reverse) (tokensOf done) offset =
        .ok (tokensOf (Lexeme.scan before offset done rest)) := by
  fun_induction Lexeme.scan before offset done rest with
  | case1 before offset done =>
    intro stands _
    have ends : (encodeUtf8 source.toList).length ≤ offset := Nat.le_of_eq stands.reads.length
    rw [loop_finish ends, tokensOf, tokensOf, List.filterMap_reverse]
  | case2 before offset done c cs lexeme ih =>
    intro stands last
    have here := tokenPass_ok (tokensOf done) stands
    rw [last, ← tokensOf_cons] at here
    have moved : Stands source (offset + byteWidth lexeme.text) (next before c cs).2 := by
      apply Stands.move
      rwa [next_append]
    have advances : offset < offset + byteWidth lexeme.text :=
      Nat.lt_add_of_pos_right (byteWidth_pos (next_text_ne_nil before c cs))
    have newest : (tokensOf ((lexeme, offset) :: done)).head? =
        (lexeme.token? offset <|> before) := by
      rw [tokensOf_cons, ← last]
      cases lexeme.token? offset <;> rfl
    rw [loop_next stands.reads.inside here advances]
    exact ih moved newest

theorem tokenize_ok (source : String) : tokenize source = .ok (PlayerCipher.tokenize source) :=
  tokenize_loop none 0 [] source.toList ⟨[], rfl, rfl⟩ rfl

end Checked

end PlayerCipher
