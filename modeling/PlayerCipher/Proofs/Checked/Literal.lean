import PlayerCipher.Proofs.Checked.Bytes
import PlayerCipher.Script.Lexeme

/-! Checked scans of literals.
A scan starts at the first byte of a literal and gives the place behind it. An escape steps over
two bytes, so it may end inside a character or past the end of the source; the scan still ends
where the literal does. -/

namespace PlayerCipher

namespace Checked

open Text Lexeme

def skipWhile (test : UInt8 → Bool) (bytes : List UInt8) (place : Nat) : Checked Nat :=
  loop bytes.length
    (fun (_ : Unit) i => do
      let byte ← get bytes i
      if test byte then return .next (i + 1) () else return .done i)
    (fun _ i => i) () place

def stringPass (bytes : List UInt8) (quote : UInt8) (_ : Unit) (i : Nat) :
    Checked (Pass Unit Nat) := do
  let byte ← get bytes i
  if isByte (· == '\\') byte then return .next (i + 2) ()
  else if isByte (· == '\n') byte && !isByte (· == '\x60') quote then return .done i
  else if byte == quote then return .done (i + 1)
  else return .next (i + 1) ()

def scanString (bytes : List UInt8) (start : Nat) : Checked Nat := do
  let quote ← get bytes start
  loop bytes.length (stringPass bytes quote) (fun _ _ => bytes.length) () (start + 1)

def isNumberChar (c : Char) : Bool := c.isAlphanum || c == '_' || c == '.'

def isSign (c : Char) : Bool := c == '+' || c == '-'

def isExponentMark (c : Char) : Bool := c == 'e' || c == 'E'

def isHexMark (c : Char) : Bool := c == 'x' || c == 'X'

def isExponentSign (bytes : List UInt8) (start i : Nat) (byte : UInt8) : Checked Bool := do
  if isByte isSign byte && start < i then
    let last ← get bytes (← sub i 1)
    if isByte isExponentMark last then
      if start + 1 < bytes.length then
        let second ← get bytes (start + 1)
        return !isByte isHexMark second
      else return true
    else return false
  else return false

def numberPass (bytes : List UInt8) (start : Nat) (_ : Unit) (i : Nat) :
    Checked (Pass Unit Nat) := do
  let byte ← get bytes i
  let sign ← isExponentSign bytes start i byte
  if isByte isNumberChar byte || sign then
    return .next (i + 1) ()
  else return .done i

def scanNumber (bytes : List UInt8) (start : Nat) : Checked Nat :=
  loop bytes.length (numberPass bytes start) (fun _ i => i) () start

def regexPass (bytes : List UInt8) (inClass : Bool) (i : Nat) :
    Checked (Pass Bool (Option Nat)) := do
  let byte ← get bytes i
  if isByte (· == '\\') byte then return .next (i + 2) inClass
  else if isByte (· == '\n') byte then return .done none
  else if isByte (· == '[') byte then return .next (i + 1) true
  else if isByte (· == ']') byte then return .next (i + 1) false
  else if isByte (· == '/') byte && !inClass then
    let stop ← skipWhile (isByte Char.isAlpha) bytes (i + 1)
    return .done (some stop)
  else return .next (i + 1) inClass

def scanRegex (bytes : List UInt8) (start : Nat) : Checked (Option Nat) :=
  loop bytes.length (regexPass bytes) (fun _ _ => none) false (start + 1)

variable {bytes : List UInt8} {place : Nat} {cs : List Char}

theorem isByte_ascii {c : Char} {byte : UInt8} {p : Char → Bool}
    (first : isByte p byte = (isAscii c && p c)) (narrow : p c = true → isAscii c = true) :
    isByte p byte = p c := by
  rw [first]
  cases holds : p c with
  | true => rw [narrow holds]; rfl
  | false => exact Bool.and_false _

theorem skipWhile_ok {test : UInt8 → Bool} {p : Char → Bool}
    (passes : ∀ {place c cs}, Reads bytes place (c :: cs) → p c = true →
      ∀ here, place ≤ here → here < place + c.utf8Size → ∃ byte, bytes[here]? = some byte ∧
        test byte = true)
    (stops : ∀ {place c cs}, Reads bytes place (c :: cs) → p c = false →
      ∃ byte, bytes[place]? = some byte ∧ test byte = false) :
    ∀ {place}, Reads bytes place cs →
      skipWhile test bytes place = .ok (place + byteWidth (cs.takeWhile p)) := by
  induction cs with
  | nil =>
    intro place reads
    have total := reads.length
    exact loop_finish (Nat.le_of_eq total)
  | cons c cs ih =>
    intro place reads
    cases holds : p c with
    | true =>
      have across := @loop_stretch _ _ bytes.length
        (fun (_ : Unit) i => do
          let byte ← get bytes i
          if test byte then return .next (i + 1) () else return .done i)
        (fun _ i => i) () c.utf8Size place
      rw [skipWhile, across, List.takeWhile_cons_of_pos holds, byteWidth_cons, ← Nat.add_assoc]
      · exact ih reads.tail
      · intro here low high
        obtain ⟨byte, found, good⟩ := passes reads holds here low high
        refine ⟨(List.getElem?_eq_some_iff.1 found).1, ?_⟩
        simp [get_ok found, good]
    | false =>
      obtain ⟨byte, found, bad⟩ := stops reads holds
      rw [List.takeWhile_cons_of_neg (by simp [holds])]
      apply loop_done reads.inside
      simp [get_ok found, bad, byteWidth]

theorem isByte_of_is {d : Char} {byte : UInt8} (is : isByte (· == d) byte = true)
    (p : Char → Bool) : isByte p byte = p d := by
  simp only [isByte, Bool.and_eq_true, beq_iff_eq] at is
  simp only [isByte, is.1, is.2, Bool.true_and]

theorem beq_of_is {d : Char} {byte other : UInt8} (is : isByte (· == d) other = true) :
    (byte == other) = isByte (· == d) byte := by
  cases same : isByte (· == d) byte with
  | true =>
    simp only [isByte, Bool.and_eq_true, decide_eq_true_eq, beq_iff_eq] at is same
    have value : ∀ n < 0x80, (Char.ofNat n).toNat = n := by
      decide
    have left := value _ same.1
    have right := value _ is.1
    rw [same.2] at left
    rw [is.2] at right
    rw [beq_iff_eq, ← UInt8.toNat_inj, ← left, ← right]
  | false =>
    rw [beq_eq_false_iff_ne]
    rintro rfl
    rw [is] at same
    cases same

theorem stringPass_high {quote : Char} {mark byte : UInt8} {here : Nat}
    (opened : isByte (· == quote) mark = true) (found : bytes[here]? = some byte)
    (high : 0x80 ≤ byte.toNat) : stringPass bytes mark () here = .ok (.next (here + 1) ()) := by
  simp only [stringPass, get_ok found, ok_bind, isByte_high high, beq_of_is opened, Bool.false_and,
    Bool.false_eq_true, if_false, pure_eq_ok]

theorem not_escape {c : Char} (alone : c = '\\' → cs = [] → False)
    (pair : ∀ d ds, c = '\\' → cs = d :: ds → False) : c ≠ '\\' := by
  intro escape
  cases cs with
  | nil => exact alone escape rfl
  | cons d ds => exact pair d ds escape rfl

theorem isAscii_of_isLayout {c : Char} (layout : isLayout c = true) : isAscii c = true := by
  simp only [isLayout, Bool.or_eq_true, beq_iff_eq] at layout
  rcases layout with (((rfl | rfl) | rfl) | rfl) | rfl <;> rfl

theorem isAscii_of_isQuote {c : Char} (quote : isQuote c = true) : isAscii c = true := by
  simp only [isQuote, Bool.or_eq_true, beq_iff_eq] at quote
  rcases quote with (rfl | rfl) | rfl <;> rfl

theorem is_ascii {c : Char} {byte : UInt8} (first : ∀ p, isByte p byte = (isAscii c && p c))
    {d : Char} (narrow : isAscii d = true) : isByte (· == d) byte = (c == d) := by
  refine isByte_ascii (first _) fun same => ?_
  rw [beq_iff_eq.1 same, narrow]

theorem stringPass_first {quote c : Char} {mark : UInt8} (ascii : isAscii quote = true)
    (opened : isByte (· == quote) mark = true) (reads : Reads bytes place (c :: cs)) :
    stringPass bytes mark () place =
      .ok (if c = '\\' then .next (place + 2) ()
        else if c = '\n' ∧ quote ≠ '\x60' then .done place
        else if c = quote then .done (place + 1)
        else .next (place + 1) ()) := by
  obtain ⟨byte, found, first, -⟩ := reads.first
  have backtick := isByte_of_is opened (· == '\x60')
  have escape : isByte (· == '\\') byte = (c == '\\') := is_ascii first rfl
  have line : isByte (· == '\n') byte = (c == '\n') := is_ascii first rfl
  have close : isByte (· == quote) byte = (c == quote) := is_ascii first ascii
  simp only [stringPass, get_ok found, ok_bind, beq_of_is opened, escape, line, close, backtick,
    pure_eq_ok, Bool.and_eq_true, Bool.not_eq_true', beq_iff_eq, beq_eq_false_iff_ne]
  split_ifs <;> rfl

theorem scanString_loop {quote : Char} {mark : UInt8} (ascii : isAscii quote = true)
    (opened : isByte (· == quote) mark = true) (cs : List Char) :
    ∀ place, Reads bytes place cs →
      loop bytes.length (stringPass bytes mark) (fun _ _ => bytes.length) () place =
        .ok (place + byteWidth (quoted quote cs).1) := by
  have across := fun here byte found => @stringPass_high bytes quote mark byte here opened found
  have width : ('\\' : Char).utf8Size = 1 := rfl
  fun_induction quoted quote cs with
  | case1 =>
    intro place reads
    have total := reads.length
    have ends : bytes.length ≤ place := Nat.le_of_eq total
    rw [loop_finish ends, total]
  | case2 =>
    -- the escape steps past the end
    intro place reads
    have total := reads.length
    have one : byteWidth ['\\'] = 1 := rfl
    rw [loop_next reads.inside (stringPass_first ascii opened reads) (by omega),
      loop_finish (by omega), total]
  | case3 c cs text rest inner ih =>
    intro place reads
    have hidden : Reads bytes (place + 1) (c :: cs) := reads.tail
    have behind := ih _ hidden.tail
    rw [inner] at behind
    dsimp only at behind ⊢
    rw [loop_next reads.inside (stringPass_first ascii opened reads) (by omega),
      hidden.skipRest across, behind, byteWidth_cons, byteWidth_cons, width]
    congr 1
    omega
  | case4 c cs _ _ line =>
    intro place reads
    have here := stringPass_first ascii opened reads
    have other : c ≠ '\\' := by
      rw [line.1]
      decide
    rw [if_neg other, if_pos line] at here
    rw [loop_done reads.inside here]
    rfl
  | case5 cs alone pair line =>
    intro place reads
    have here := stringPass_first ascii opened reads
    have one : byteWidth [quote] = 1 := by
      rw [byteWidth_cons, utf8Size_of_isAscii ascii]
      rfl
    rw [if_neg (not_escape alone pair), if_neg line, if_pos rfl] at here
    rw [loop_done reads.inside here, one]
  | case6 c cs alone pair line close text rest inner ih =>
    intro place reads
    have behind := ih _ reads.tail
    have here := stringPass_first ascii opened reads
    rw [if_neg (not_escape alone pair), if_neg line, if_neg close] at here
    rw [inner] at behind
    dsimp only at behind ⊢
    rw [loop_next reads.inside here (by omega), reads.skipRest across, behind, byteWidth_cons,
      Nat.add_assoc]

theorem scanString_ok {c : Char} (reads : Reads bytes place (c :: cs)) (quote : isQuote c = true) :
    scanString bytes place = .ok (place + byteWidth (c :: (quoted c cs).1)) := by
  have ascii := isAscii_of_isQuote quote
  obtain ⟨mark, found, first, -⟩ := reads.first
  have opened : isByte (· == c) mark = true := by
    rw [first, ascii, beq_self_eq_true]
    rfl
  have behind := reads.tail
  rw [utf8Size_of_isAscii ascii] at behind
  rw [scanString, get_ok found, ok_bind, scanString_loop ascii opened cs _ behind, byteWidth_cons,
    utf8Size_of_isAscii ascii, Nat.add_assoc]

theorem isAscii_of_isAlphanum {c : Char} (word : c.isAlphanum = true) : isAscii c = true := by
  have bounds := isAlphanum_bounds word
  apply decide_eq_true
  omega

theorem isAscii_of_isDigit {c : Char} (digit : c.isDigit = true) : isAscii c = true :=
  isAscii_of_isAlphanum (by rw [Char.isAlphanum, digit, Bool.or_true])

theorem isAscii_of_isNumberChar {c : Char} (number : isNumberChar c = true) :
    isAscii c = true := by
  simp only [isNumberChar, Bool.or_eq_true, beq_iff_eq] at number
  rcases number with (word | rfl) | rfl
  · exact isAscii_of_isAlphanum word
  · rfl
  · rfl

theorem isAscii_of_isSign {c : Char} (sign : isSign c = true) : isAscii c = true := by
  simp only [isSign, Bool.or_eq_true, beq_iff_eq] at sign
  rcases sign with rfl | rfl <;> rfl

theorem isAscii_of_isHexMark {c : Char} (mark : isHexMark c = true) : isAscii c = true := by
  simp only [isHexMark, Bool.or_eq_true, beq_iff_eq] at mark
  rcases mark with rfl | rfl <;> rfl

theorem isExponentSign_ok {start : Nat} {byte last : UInt8} {hex : Bool} (behind : start < place)
    (before : bytes[place - 1]? = some last)
    (second : (bytes[start + 1]?).any (isByte isHexMark) = hex) :
    isExponentSign bytes start place byte =
      .ok (isByte isSign byte && isByte isExponentMark last && !hex) := by
  have back : sub place 1 = .ok (place - 1) := sub_ok (by omega)
  unfold isExponentSign
  cases sign : isByte isSign byte with
  | false => simp only [Bool.false_and, Bool.false_eq_true, if_false, pure_eq_ok]
  | true =>
    simp only [behind, decide_true, Bool.true_and, if_true, back, ok_bind, get_ok before]
    cases mark : isByte isExponentMark last with
    | false => simp only [Bool.false_and, Bool.false_eq_true, if_false, pure_eq_ok]
    | true =>
      by_cases more : start + 1 < bytes.length
      · have found := List.getElem?_eq_getElem more
        rw [found, Option.any_some] at second
        simp only [if_true, more, get_ok found, ok_bind, second, pure_eq_ok, Bool.true_and]
      · rw [List.getElem?_eq_none (Nat.le_of_not_lt more), Option.any_none] at second
        simp only [if_true, more, if_false, pure_eq_ok, Bool.true_and, ← second, Bool.not_false]

/-- Whether the character continues a number in which `last` stands before it. -/
def continuesNumber (hex : Bool) (last c : Char) : Bool :=
  isNumberChar c || (isSign c && isExponentMark last && !hex)

theorem isAscii_of_continuesNumber {hex : Bool} {last c : Char}
    (goes : continuesNumber hex last c = true) : isAscii c = true := by
  simp only [continuesNumber, Bool.or_eq_true, Bool.and_eq_true] at goes
  rcases goes with number | sign
  · exact isAscii_of_isNumberChar number
  · exact isAscii_of_isSign sign.1.1

theorem numberPass_first {start : Nat} {hex : Bool} {last c : Char} {lastByte : UInt8}
    (reads : Reads bytes place (c :: cs)) (behind : start < place)
    (before : bytes[place - 1]? = some lastByte) (is : ∀ p, isByte p lastByte = p last)
    (second : (bytes[start + 1]?).any (isByte isHexMark) = hex) :
    numberPass bytes start () place =
      .ok (if continuesNumber hex last c then .next (place + 1) () else .done place) := by
  obtain ⟨byte, found, first, -⟩ := reads.first
  have number := isByte_ascii (first isNumberChar) isAscii_of_isNumberChar
  have sign := isByte_ascii (first isSign) isAscii_of_isSign
  simp only [numberPass, get_ok found, ok_bind, isExponentSign_ok behind before second, number,
    sign, is, pure_eq_ok, continuesNumber]
  exact (apply_ite Except.ok _ _ _).symm

theorem scanNumber_loop {start : Nat} {hex : Bool}
    (second : (bytes[start + 1]?).any (isByte isHexMark) = hex) (cs : List Char) :
    ∀ last place lastByte, Reads bytes place cs → start < place →
      bytes[place - 1]? = some lastByte → (∀ p, isByte p lastByte = p last) →
      loop bytes.length (numberPass bytes start) (fun _ i => i) () place =
        .ok (place + byteWidth (numberTail hex last cs).1) := by
  induction cs with
  | nil =>
    intro last place lastByte reads _ _ _
    exact loop_finish (Nat.le_of_eq reads.length)
  | cons c cs ih =>
    intro last place lastByte reads behind before is
    have here := numberPass_first reads behind before is second
    have condition : (c.isAlphanum || c == '_' || c == '.' ||
        ((c == '+' || c == '-') && (last == 'e' || last == 'E') && !hex)) =
          continuesNumber hex last c := rfl
    simp only [numberTail, condition]
    split_ifs with goes
    · have ascii := isAscii_of_continuesNumber goes
      have width := utf8Size_of_isAscii ascii
      obtain ⟨byte, found, first, -⟩ := reads.first
      have behindHere := ih c (place + 1) byte (width ▸ reads.tail) (by omega) found
        (by simpa [ascii] using first)
      rw [if_pos goes] at here
      rw [loop_next reads.inside here (by omega), behindHere, byteWidth_cons, width,
        Nat.add_assoc]
    · rw [if_neg goes] at here
      exact loop_done reads.inside here

theorem scanNumber_ok {c : Char} (reads : Reads bytes place (c :: cs))
    (begins : isNumberChar c = true) :
    scanNumber bytes place =
      .ok (place + byteWidth
        (c :: (numberTail (cs.head? == some 'x' || cs.head? == some 'X') c cs).1)) := by
  have ascii := isAscii_of_isNumberChar begins
  have width := utf8Size_of_isAscii ascii
  have behind := reads.tail
  rw [width] at behind
  obtain ⟨byte, found, first, -⟩ := reads.first
  have is : ∀ p, isByte p byte = p c := by
    simpa [ascii] using first
  have second : (bytes[place + 1]?).any (isByte isHexMark) =
      (cs.head? == some 'x' || cs.head? == some 'X') := by
    rw [behind.peek]
    cases cs with
    | nil => rfl
    | cons d ds =>
      have narrow : (isAscii d && isHexMark d) = isHexMark d := by
        cases mark : isHexMark d with
        | true => rw [isAscii_of_isHexMark mark]; rfl
        | false => exact Bool.and_false _
      exact narrow
  have here : numberPass bytes place () place = .ok (.next (place + 1) ()) := by
    have number := is isNumberChar
    have no_sign : isExponentSign bytes place place byte = .ok false := by
      simp only [isExponentSign, Nat.lt_irrefl, decide_false, Bool.and_false, Bool.false_eq_true,
        if_false, pure_eq_ok]
    simp only [numberPass, get_ok found, ok_bind, no_sign, number, begins, Bool.true_or, if_true,
      pure_eq_ok]
  rw [scanNumber, loop_next reads.inside here (by omega),
    scanNumber_loop second cs c (place + 1) byte behind (by omega) found is, byteWidth_cons, width,
    Nat.add_assoc]

theorem skipFlags_ok (reads : Reads bytes place cs) :
    skipWhile (isByte Char.isAlpha) bytes place =
      .ok (place + byteWidth (cs.takeWhile Char.isAlpha)) := by
  refine skipWhile_ok ?_ ?_ reads
  · intro place c cs reads letter here low high
    have ascii : isAscii c = true :=
      isAscii_of_isAlphanum (by rw [Char.isAlphanum, letter, Bool.true_or])
    rw [utf8Size_of_isAscii ascii] at high
    obtain ⟨byte, found, first, -⟩ := reads.first
    have same : here = place := by
      omega
    rw [same]
    exact ⟨byte, found, by rw [first, ascii, letter]; rfl⟩
  · intro place c cs reads other
    obtain ⟨byte, found, first, -⟩ := reads.first
    exact ⟨byte, found, by rw [first, other, Bool.and_false]⟩

def isIdentByte (byte : UInt8) : Bool :=
  isByte isNameChar byte || 0x80 ≤ byte.toNat

theorem isIdentByte_first {c : Char} (reads : Reads bytes place (c :: cs)) :
    ∃ byte, bytes[place]? = some byte ∧ isIdentByte byte = isIdentChar c := by
  obtain ⟨byte, found, first, wide⟩ := reads.first
  refine ⟨byte, found, ?_⟩
  rw [isIdentByte, isIdentChar, first]
  by_cases narrow : isAscii c = true
  · have low : ¬ 0x80 ≤ byte.toNat := by
      rw [wide, narrow]
      decide
    simp [narrow, low]
  · simp [narrow, wide]

theorem skipIdent_ok (reads : Reads bytes place cs) :
    skipWhile isIdentByte bytes place =
      .ok (place + byteWidth (cs.takeWhile isIdentChar)) := by
  refine skipWhile_ok ?_ ?_ reads
  · intro place c cs reads letter here low high
    by_cases atFirst : place = here
    · obtain ⟨byte, found, same⟩ := isIdentByte_first reads
      rw [atFirst] at found
      exact ⟨byte, found, same.trans letter⟩
    · obtain ⟨byte, found, wide⟩ := reads.inner (Nat.lt_of_le_of_ne low atFirst) high
      exact ⟨byte, found, by simp [isIdentByte, wide]⟩
  · intro place c cs reads other
    obtain ⟨byte, found, same⟩ := isIdentByte_first reads
    exact ⟨byte, found, same.trans other⟩

theorem skipLine_ok (reads : Reads bytes place cs) :
    skipWhile (fun byte => !isByte (· == '\n') byte) bytes place =
      .ok (place + byteWidth (cs.takeWhile (· != '\n'))) := by
  refine skipWhile_ok ?_ ?_ reads
  · intro place c cs reads other here low high
    have outside : (c == '\n') = false := by
      simpa using other
    obtain ⟨byte, found, plain⟩ :=
      @Reads.plain bytes place c cs reads (· == '\n') outside here low high
    exact ⟨byte, found, by rw [plain]; rfl⟩
  · intro place c cs reads line
    have newline : c = '\n' := by
      simpa using line
    obtain ⟨byte, found, first, -⟩ := reads.first
    exact ⟨byte, found, by rw [first, newline]; rfl⟩

theorem regexPass_high {inClass : Bool} {byte : UInt8} {here : Nat}
    (found : bytes[here]? = some byte) (high : 0x80 ≤ byte.toNat) :
    regexPass bytes inClass here = .ok (.next (here + 1) inClass) := by
  simp only [regexPass, get_ok found, ok_bind, isByte_high high, Bool.false_and,
    Bool.false_eq_true, if_false, pure_eq_ok]

theorem regexPass_first {inClass : Bool} {c : Char} (reads : Reads bytes place (c :: cs)) :
    regexPass bytes inClass place =
      .ok (if c = '\\' then .next (place + 2) inClass
        else if c = '\n' then .done none
        else if c = '[' then .next (place + 1) true
        else if c = ']' then .next (place + 1) false
        else if c = '/' ∧ inClass = false then
          .done (some (place + byteWidth (c :: cs.takeWhile Char.isAlpha)))
        else .next (place + 1) inClass) := by
  obtain ⟨byte, found, first, -⟩ := reads.first
  have escape : isByte (· == '\\') byte = (c == '\\') := is_ascii first rfl
  have line : isByte (· == '\n') byte = (c == '\n') := is_ascii first rfl
  have opens : isByte (· == '[') byte = (c == '[') := is_ascii first rfl
  have closes : isByte (· == ']') byte = (c == ']') := is_ascii first rfl
  have slash : isByte (· == '/') byte = (c == '/') := is_ascii first rfl
  simp only [regexPass, get_ok found, ok_bind, escape, line, opens, closes, slash, pure_eq_ok,
    Bool.and_eq_true, Bool.not_eq_true', beq_iff_eq]
  split_ifs with _ _ _ _ ends
  · rfl
  · rfl
  · rfl
  · rfl
  · have width : c.utf8Size = 1 := by
      rw [ends.1]
      rfl
    have behind := reads.tail
    rw [width] at behind
    rw [skipFlags_ok behind, byteWidth_cons, width, Nat.add_assoc]
    rfl
  · rfl

theorem scanRegex_loop (inClass : Bool) (cs : List Char) :
    ∀ place, Reads bytes place cs →
      loop bytes.length (regexPass bytes) (fun _ _ => none) inClass place =
        .ok ((regexTail inClass cs).map fun found => place + byteWidth found.1) := by
  have width : ('\\' : Char).utf8Size = 1 := rfl
  fun_induction regexTail inClass cs with
  | case1 inClass =>
    intro place reads
    exact loop_finish (Nat.le_of_eq reads.length)
  | case2 inClass =>
    intro place reads
    have total := reads.length
    have one : byteWidth ['\\'] = 1 := rfl
    rw [loop_next reads.inside (regexPass_first reads) (by omega), loop_finish (by omega)]
    rfl
  | case3 inClass c cs ih =>
    intro place reads
    have hidden : Reads bytes (place + 1) (c :: cs) := reads.tail
    rw [loop_next reads.inside (regexPass_first reads) (by omega),
      hidden.skipRest fun _ _ => regexPass_high, ih _ hidden.tail]
    cases regexTail inClass cs with
    | none => rfl
    | some found =>
      simp only [Option.map_some, byteWidth_cons, width]
      congr 2
      omega
  | case4 inClass cs alone pair =>
    intro place reads
    exact loop_done reads.inside (regexPass_first reads)
  | case5 inClass c cs alone pair line ends =>
    intro place reads
    have here := @regexPass_first bytes place cs inClass c reads
    have bracket : c ≠ '[' ∧ c ≠ ']' := by
      rw [ends.1]
      decide
    rw [if_neg (not_escape alone pair), if_neg line, if_neg bracket.1, if_neg bracket.2,
      if_pos ends] at here
    exact loop_done reads.inside here
  | case6 inClass c cs alone pair line ends inClass' ih =>
    intro place reads
    have here : regexPass bytes inClass place = .ok (.next (place + 1) inClass') := by
      have shape : inClass' = if c = '[' then true else if c = ']' then false else inClass := rfl
      rw [regexPass_first reads, if_neg (not_escape alone pair), if_neg line, if_neg ends, shape]
      split_ifs <;> rfl
    rw [loop_next reads.inside here (by omega), reads.skipRest fun _ _ => regexPass_high,
      ih _ reads.tail]
    cases regexTail inClass' cs with
    | none => rfl
    | some found =>
      simp only [Option.map_some, byteWidth_cons, Nat.add_assoc]

theorem scanRegex_ok (reads : Reads bytes place ('/' :: cs)) :
    scanRegex bytes place =
      .ok ((regexTail false cs).map fun found => place + byteWidth ('/' :: found.1)) := by
  have behind : Reads bytes (place + 1) cs := reads.tail
  have width : ('/' : Char).utf8Size = 1 := rfl
  rw [scanRegex, scanRegex_loop false cs _ behind]
  simp only [byteWidth_cons, width, Nat.add_assoc]

end Checked

end PlayerCipher
