import Mathlib.Data.List.Basic
import PlayerCipher.Proofs.Script.Compact

/-! One token on each line.
A token's text is read back whole in front of a line feed, and as the same kind of token: what
else stands between two tokens decides nothing. A script with one token on each line is a normal
form of all scripts with these tokens. -/

namespace PlayerCipher

namespace Lexeme

def AtLineEnd (after : List Char) : Prop :=
  ∀ c ∈ after.head?, c = '\n'

theorem AtLineEnd.stops {after : List Char} (ends : AtLineEnd after) {p : Char → Bool}
    (other : p '\n' = false) : after.head?.any p = false := by
  cases after with
  | nil => rfl
  | cons d after =>
    obtain rfl := ends d rfl
    exact other

variable {before : Option Token} {c last quote : Char} {hex inClass : Bool}
  {cs text rest after : List Char}

theorem ne_backslash (single : c = '\\' → cs = [] → False)
    (escaped : ∀ d ds, c = '\\' → cs = d :: ds → False) : c ≠ '\\' := by
  intro same
  cases cs with
  | nil => exact single same rfl
  | cons d ds => exact escaped d ds same rfl

theorem quoted_cons (plain : c ≠ '\\') :
    quoted quote (c :: cs) =
      if c = '\n' ∧ quote ≠ '\x60' then ([], c :: cs)
      else if c = quote then ([c], cs)
      else (c :: (quoted quote cs).1, (quoted quote cs).2) := by
  rw [quoted]
  · exact fun same => absurd same plain
  · exact fun _ _ same => absurd same plain

theorem regexTail_cons (plain : c ≠ '\\') :
    regexTail inClass (c :: cs) =
      if c = '\n' then none
      else if c = '/' ∧ inClass = false then
        some (c :: cs.takeWhile Char.isAlpha, cs.dropWhile Char.isAlpha)
      else
        (regexTail (if c = '[' then true else if c = ']' then false else inClass) cs).map
          fun (text, rest) => (c :: text, rest) := by
  rw [regexTail]
  · exact fun same => absurd same plain
  · exact fun _ _ same => absurd same plain

theorem quoted_line (ends : AtLineEnd after) :
    quoted quote cs = (text, rest) → (rest = [] → after = []) →
      quoted quote (text ++ after) = (text, after) := by
  fun_induction quoted quote cs generalizing text rest with
  | case1 =>
    rintro ⟨⟩ last
    rw [last rfl]
    rfl
  | case2 =>
    rintro ⟨⟩ last
    rw [last rfl]
    rfl
  | case3 d cs inner behind same ih =>
    rintro ⟨⟩ last
    simp only [List.cons_append, quoted, ih same last]
  | case4 d cs _ _ feed =>
    rintro ⟨⟩ -
    obtain ⟨rfl, other⟩ := feed
    cases after with
    | nil => rfl
    | cons e after =>
      obtain rfl := ends e rfl
      rw [List.nil_append, quoted_cons (by decide), if_pos ⟨rfl, other⟩]
  | case5 cs single escaped within =>
    rintro ⟨⟩ -
    rw [List.singleton_append, quoted_cons (ne_backslash single escaped), if_neg within,
      if_pos rfl]
  | case6 d cs single escaped within other inner behind same ih =>
    rintro ⟨⟩ last
    rw [List.cons_append, quoted_cons (ne_backslash single escaped), if_neg within, if_neg other,
      ih same last]

theorem numberTail_line (ends : AtLineEnd after) :
    numberTail hex last cs = (text, rest) →
      numberTail hex last (text ++ after) = (text, after) := by
  have stops : ∀ last, numberTail hex last after = ([], after) := by
    intro last
    cases after with
    | nil => rfl
    | cons d after =>
      obtain rfl := ends d rfl
      rfl
  fun_induction numberTail hex last cs generalizing text rest with
  | case1 last =>
    rintro ⟨⟩
    exact stops last
  | case2 last d cs goes inner behind same ih =>
    rintro ⟨⟩
    rw [List.cons_append, numberTail, if_pos goes, ih same]
  | case3 last d cs _ =>
    rintro ⟨⟩
    exact stops last

theorem numberTail_head (read : numberTail hex last cs = (text, rest)) {d : Char}
    (word : d.isAlphanum = true) (first : cs.head? = some d) : text.head? = some d := by
  cases cs with
  | nil => cases first
  | cons e cs =>
    cases first
    simp only [numberTail, word, Bool.true_or, if_true] at read
    cases read
    rfl

theorem regexTail_line (ends : AtLineEnd after) :
    regexTail inClass cs = some (text, rest) →
      regexTail inClass (text ++ after) = some (text, after) := by
  fun_induction regexTail inClass cs generalizing text rest with
  | case1 =>
    intro found
    cases found
  | case2 =>
    intro found
    cases found
  | case3 inClass d cs ih =>
    intro found
    obtain ⟨⟨inner, behind⟩, same, whole⟩ := Option.map_eq_some_iff.1 found
    cases whole
    simp only [List.cons_append, regexTail, ih same, Option.map_some]
  | case4 =>
    intro found
    cases found
  | case5 inClass d cs single escaped feed closes =>
    rintro ⟨⟩
    obtain ⟨taken, left⟩ := takeWhile_run (List.all_takeWhile (p := Char.isAlpha) (l := cs))
      (ends.stops (p := Char.isAlpha) (by decide))
    rw [List.cons_append, regexTail_cons (ne_backslash single escaped), if_neg feed,
      if_pos closes, taken, left]
  | case6 inClass d cs single escaped feed closes within =>
    rename_i ih
    intro found
    obtain ⟨⟨inner, behind⟩, same, whole⟩ := Option.map_eq_some_iff.1 found
    cases whole
    rw [List.cons_append, regexTail_cons (ne_backslash single escaped), if_neg feed,
      if_neg closes, ih same, Option.map_some]

theorem no_line_feed : ∀ punct ∈ punctuators, '\n' ∉ punct.toList := by
  decide

theorem find_line {punct : String} {source : List Char} (ends : AtLineEnd after)
    (found : punctuators.find? (fun punct => punct.toList.isPrefixOf source) = some punct) :
    punctuators.find? (fun other => other.toList.isPrefixOf (punct.toList ++ after)) =
      some punct := by
  obtain ⟨fits, front, back, split, first⟩ := List.find?_eq_some_iff_append.1 found
  refine List.find?_eq_some_iff_append.2 ⟨?_, front, back, split, ?_⟩
  · exact List.isPrefixOf_iff_prefix.2 (List.prefix_append _ _)
  intro other member
  have early := first other member
  simp only [Bool.not_eq_true', ← Bool.not_eq_true, List.isPrefixOf_iff_prefix] at fits early ⊢
  intro begins
  rcases List.prefix_or_prefix_of_prefix begins (List.prefix_append _ _) with inside | longer
  · exact early (inside.trans fits)
  · obtain ⟨more, whole⟩ := longer
    rw [← whole, List.prefix_append_right_inj] at begins
    cases more with
    | nil =>
      rw [List.append_nil] at whole
      exact early (whole ▸ fits)
    | cons d more =>
      obtain ⟨tail, rfl⟩ := begins
      obtain rfl := ends d rfl
      apply no_line_feed other
      · rw [split]
        exact List.mem_append_left _ member
      · rw [← whole]
        simp

/-- The second character of a token is still there in front of a line feed, and no other than a
line feed is there instead. -/
theorem head_line (ends : AtLineEnd after) (d : Char) (other : d ≠ '\n')
    (first : (text ++ after).head? = some d) : (text ++ rest).head? = some d := by
  cases text with
  | nil => exact absurd (ends d first) other
  | cons e text => exact first

theorem begins_number_iff :
    (c.isDigit || (c == '.' && (cs.head?.map Char.isDigit).getD false)) = true ↔
      c.isDigit = true ∨ c = '.' ∧ ∃ d, cs.head? = some d ∧ d.isDigit = true := by
  cases cs.head? <;> simp

theorem begins_no_number_line (ends : AtLineEnd after)
    (other : ¬(c.isDigit ||
      (c == '.' && ((text ++ rest).head?.map Char.isDigit).getD false)) = true) :
    ¬(c.isDigit || (c == '.' && ((text ++ after).head?.map Char.isDigit).getD false)) = true := by
  rw [begins_number_iff] at other ⊢
  rintro (digit | ⟨dot, d, first, digit⟩)
  · exact other (.inl digit)
  · refine other (.inr ⟨dot, d, head_line ends d ?_ first, digit⟩)
    rintro rfl
    exact absurd digit (by decide)

theorem number_line (ends : AtLineEnd after)
    (begins : (c.isDigit || (c == '.' && (cs.head?.map Char.isDigit).getD false)) = true)
    (read : numberTail (cs.head? == some 'x' || cs.head? == some 'X') c cs = (text, rest)) :
    (c.isDigit || (c == '.' && ((text ++ after).head?.map Char.isDigit).getD false)) = true ∧
      numberTail ((text ++ after).head? == some 'x' || (text ++ after).head? == some 'X') c
        (text ++ after) = (text, after) := by
  have whole : text ++ rest = cs := by
    simpa [read] using numberTail_append (cs.head? == some 'x' || cs.head? == some 'X') c cs
  have heads : ∀ d : Char, d.isAlphanum = true →
      ((text ++ after).head? = some d ↔ cs.head? = some d) := by
    intro d word
    refine ⟨fun first => whole ▸ head_line ends d ?_ first, fun first => ?_⟩
    · rintro rfl
      exact absurd word (by decide)
    · rw [List.head?_append, numberTail_head read word first]
      rfl
  have hex : ((text ++ after).head? == some 'x' || (text ++ after).head? == some 'X') =
      (cs.head? == some 'x' || cs.head? == some 'X') := by
    rw [Bool.eq_iff_iff]
    simp only [Bool.or_eq_true, beq_iff_eq, heads 'x' (by decide), heads 'X' (by decide)]
  refine ⟨?_, hex ▸ numberTail_line ends read⟩
  rw [begins_number_iff] at begins ⊢
  rcases begins with digit | ⟨dot, d, first, digit⟩
  · exact .inl digit
  · have word : d.isAlphanum = true := by
      simp [Char.isAlphanum, digit]
    exact .inr ⟨dot, d, (heads d word).2 first, digit⟩

theorem next_text_cons (before : Option Token) (c : Char) (cs : List Char) :
    ∃ text, (next before c cs).1.text = c :: text := by
  have whole := next_append before c cs
  cases shape : (next before c cs).1.text with
  | nil => exact absurd shape (next_text_ne_nil before c cs)
  | cons d text =>
    rw [shape] at whole
    exact ⟨text, by rw [(List.cons.inj whole).1]⟩

/-- A token is read back whole in front of a line feed, or at the end if nothing stood behind it. -/
theorem next_line {kind : Token.Kind} (read : next before c cs = (⟨some kind, c :: text⟩, rest))
    (ends : AtLineEnd after) (last : rest = [] → after = []) :
    next before c (text ++ after) = (⟨some kind, c :: text⟩, after) := by
  have whole : text ++ rest = cs := by
    simpa [read] using next_append before c cs
  have noComment : ∀ d, d ≠ '\n' → ¬(c = '/' ∧ cs.head? = some d) → c = '/' →
      (text ++ after).head? ≠ some d :=
    fun d other none slash first => none ⟨slash, whole ▸ head_line ends d other first⟩
  revert read
  fun_cases next before c cs with
  | case1 | case2 | case3 => rintro ⟨⟩
  | case4 _ _ _ quote inner behind string =>
    rintro ⟨⟩
    rw [next_isQuote quote, quoted_line ends string last]
  | case5 _ _ _ _ begins hex inner behind number =>
    rintro ⟨⟩
    obtain ⟨begins', tail⟩ := number_line ends begins number
    rw [next_number begins', tail]
  | case6 _ _ _ _ begins named =>
    rintro ⟨⟩
    have digit : c.isDigit = false := by
      rw [begins_number_iff, not_or] at begins
      exact eq_false_of_ne_true begins.1
    obtain ⟨taken, left⟩ := takeWhile_run (List.all_takeWhile (p := isIdentChar) (l := cs))
      (ends.stops (p := isIdentChar) (by decide))
    rw [next_identChar named digit, taken, left]
  | case7 _ line block _ _ _ slash inner behind regex =>
    rintro ⟨⟩
    obtain ⟨rfl, may⟩ := slash
    exact next_regexTail (noComment '/' (by decide) line rfl) (noComment '*' (by decide) block rfl)
      may (regexTail_line ends regex)
  | case8 _ line block _ _ _ slash regex =>
    -- A slash that no regex literal follows: the line ends at once.
    rintro ⟨⟩
    obtain ⟨rfl, may⟩ := slash
    have unclosed : regexTail false ([] ++ after) = none := by
      cases after with
      | nil => rfl
      | cons d after =>
        obtain rfl := ends d rfl
        rfl
    exact next_unclosed (noComment '/' (by decide) line rfl) (noComment '*' (by decide) block rfl)
      may unclosed
  | case9 layout line block quote begins named regex punct found =>
    intro read
    obtain ⟨shape, -⟩ := Prod.mk.inj read
    have chars : punct.toList = c :: text := congrArg Lexeme.text shape
    obtain rfl : kind = .punct := (Option.some.inj (congrArg Lexeme.kind shape)).symm
    have first := find_line ends found
    rw [chars, List.cons_append] at first
    have slash : c = '/' → regexMayFollow before = false ∧
        (text ++ after).head? ≠ some '/' ∧ (text ++ after).head? ≠ some '*' :=
      fun same => ⟨by simpa [same] using regex, noComment '/' (by decide) line same,
        noComment '*' (by decide) block same⟩
    rw [next_punct (by simp [layout, quote, named])
      (eq_false_of_ne_true (begins_no_number_line ends (whole ▸ begins))) slash first]
    simp [chars]
  | case10 => rintro ⟨⟩

theorem next_congr {before' : Option Token} (same : regexMayFollow before = regexMayFollow before')
    (c : Char) (cs : List Char) : next before c cs = next before' c cs := by
  simp only [next, same]

/-- Kinds and texts of the tokens that are read from `source` after the token `before`. -/
def viewsFrom (before : Option Token) (source : List Char) : List (Token.Kind × String) :=
  match source with
  | [] => []
  | c :: cs =>
    match (next before c cs).1.token? 0 with
    | some token => token.view :: viewsFrom (some token) (next before c cs).2
    | none => viewsFrom before (next before c cs).2
termination_by source.length
decreasing_by
  all_goals
    have shorter := next_rest_length before c cs
    simp only [List.length_cons]
    omega

theorem scan_views (before : Option Token) (offset : ℕ) (done : List (Lexeme × ℕ))
    (source : List Char) :
    ∀ before', regexMayFollow before = regexMayFollow before' →
      ((scan before offset done source).filterMap
          fun (lexeme, offset) => lexeme.token? offset).map Token.view =
        (done.reverse.filterMap fun (lexeme, offset) => lexeme.token? offset).map Token.view ++
          viewsFrom before' source := by
  fun_induction scan before offset done source with
  | case1 before offset done =>
    intro before' _
    simp [viewsFrom]
  | case2 before offset done c cs lexeme =>
    rename_i ih
    intro before' same
    rw [viewsFrom, ← next_congr same c cs]
    rcases is : lexeme.kind with _ | kind
    · have skipped : ∀ offset, lexeme.token? offset = none := by
        simp [token?, is]
      rw [ih before' (by simpa [skipped] using same)]
      simp [skipped, lexeme]
    · have found : ∀ offset, lexeme.token? offset =
          some ⟨kind, String.ofList lexeme.text, offset⟩ := by
        simp [token?, is]
      rw [ih (some ⟨kind, String.ofList lexeme.text, 0⟩) (by simp [found, regexMayFollow])]
      simp [found, Token.view, lexeme]

def linesOf (views : List (Token.Kind × String)) : List Char :=
  ['\n'].intercalate (views.map fun view => view.2.toList)

theorem linesOf_cons (view : Token.Kind × String) (views : List (Token.Kind × String)) :
    linesOf (view :: views) =
      view.2.toList ++ if views = [] then [] else '\n' :: linesOf views := by
  cases views with
  | nil => simp [linesOf]
  | cons other views => simp [linesOf, List.intercalate]

theorem viewsFrom_line_feed (before : Option Token) (cs : List Char) :
    viewsFrom before ('\n' :: cs) = viewsFrom before cs := by
  rw [viewsFrom]
  rfl

theorem viewsFrom_linesOf (before : Option Token) (source : List Char) :
    viewsFrom before (linesOf (viewsFrom before source)) = viewsFrom before source := by
  fun_induction viewsFrom before source with
  | case1 before =>
    rw [linesOf, List.map_nil, List.intercalate_nil, viewsFrom]
  | case2 before c cs token found ih =>
    obtain ⟨kind, is, same⟩ := Option.map_eq_some_iff.1 found
    -- Behind the first token's text stand the lines of the others, on a new line if there are any.
    generalize behind : viewsFrom (some token) (next before c cs).2 = views at ih ⊢
    generalize split : (if views = [] then [] else '\n' :: linesOf views) = after
    have rest : viewsFrom (some token) after = views := by
      rw [← split]
      split_ifs with last
      · rw [viewsFrom, last]
      · rw [viewsFrom_line_feed, ih]
    have ends : AtLineEnd after := by
      rw [← split]
      split_ifs
      · simp [AtLineEnd]
      · simp [AtLineEnd]
    have last : (next before c cs).2 = [] → after = [] := by
      intro empty
      rw [empty, viewsFrom] at behind
      rw [← split, if_pos behind.symm]
    obtain ⟨text, chars⟩ := next_text_cons before c cs
    have lexeme : (next before c cs).1 = ⟨some kind, c :: text⟩ := by
      rw [← is, ← chars]
    have read : next before c (text ++ after) = ((next before c cs).1, after) := by
      rw [lexeme]
      exact next_line (Prod.ext lexeme rfl) ends last
    have written : token.text.toList = c :: text := by
      rw [← same, String.toList_ofList, chars]
    rw [linesOf_cons, split, Token.view, written, List.cons_append, viewsFrom, read, found]
    simp only [rest, Token.view]
  | case3 before c cs none ih => exact ih

end Lexeme

def tokenLines (source : String) : String :=
  "\n".intercalate ((tokenize source).map Token.text)

theorem view_tokenize (source : String) :
    (tokenize source).map Token.view = Lexeme.viewsFrom none source.toList :=
  Lexeme.scan_views none 0 [] source.toList none rfl

theorem toList_tokenLines (source : String) :
    (tokenLines source).toList = Lexeme.linesOf ((tokenize source).map Token.view) := by
  simp [tokenLines, Lexeme.linesOf, Function.comp_def, Token.view]

/-- The tokens of a script, one on each line, are read as the same tokens. Scripts with the same
tokens, whatever stands between them, have the same lines and no others have. -/
theorem tokenize_tokenLines (source : String) :
    (tokenize (tokenLines source)).map Token.view = (tokenize source).map Token.view ∧
      tokenLines (tokenLines source) = tokenLines source ∧
      ∀ other, tokenLines other = tokenLines source ↔
        (tokenize other).map Token.view = (tokenize source).map Token.view := by
  have readBack : ∀ source,
      (tokenize (tokenLines source)).map Token.view = (tokenize source).map Token.view := by
    intro source
    rw [view_tokenize, toList_tokenLines, view_tokenize, Lexeme.viewsFrom_linesOf]
  have lines : ∀ {left right}, (tokenize left).map Token.view = (tokenize right).map Token.view →
      tokenLines left = tokenLines right := by
    intro left right same
    rw [← String.toList_inj, toList_tokenLines, toList_tokenLines, same]
  refine ⟨readBack source, lines (readBack source), fun other => ⟨fun same => ?_, lines⟩⟩
  rw [← readBack other, same, readBack source]

end PlayerCipher
