import PlayerCipher.Proofs.Script.Closing
import PlayerCipher.Proofs.Script.Coverage
import PlayerCipher.Proofs.Script.Nesting

/-! Contents of string literals.
A literal that its quote closes has the text between the quotes as its contents. One that a line
feed or the end of the source cuts off has none, and a function assigned to it has no name. A
cut-off literal whose last character is a quote behind a backslash is taken for a closed one. -/

namespace PlayerCipher

namespace Lexeme

theorem next_str {before : Option Token} {c : Char} {cs text rest : List Char}
    (read : next before c cs = (⟨some .str, text⟩, rest)) :
    isQuote c = true ∧ text = c :: (quoted c cs).1 ∧ rest = (quoted c cs).2 := by
  revert read
  fun_cases next before c cs with
  | case4 _ _ _ quote inner behind string =>
    rintro ⟨⟩
    rw [string]
    exact ⟨quote, rfl, rfl⟩
  | _ => rintro ⟨⟩

theorem ne_backslash_of_isQuote {quote : Char} (is : isQuote quote = true) : quote ≠ '\\' := by
  rintro rfl
  cases is

/-- Whether a literal is cut off right behind a quote, which a backslash hides. -/
def EndsInHiddenQuote (quote : Char) (cs : List Char) : Prop :=
  endingOf quote cs ≠ .quote ∧ ['\\', quote] <:+ (quoted quote cs).1

theorem EndsBy.quote_last {quote : Char} {cs text rest : List Char} {ending : Ending}
    (ends : EndsBy quote cs text rest ending) (is : isQuote quote = true)
    (last : text.getLast? = some quote) : ending = .quote ∨ ['\\', quote] <:+ text := by
  cases ends with
  | quote => exact .inl rfl
  | lineFeed hidden => exact .inr (hidden_last hidden last)
  | sourceEnd hidden => exact .inr (hidden_last hidden last)
  | escapeEnd =>
    rw [List.getLast?_concat, Option.some.injEq] at last
    exact absurd last.symm (ne_backslash_of_isQuote is)

theorem EndsBy.closed_last {quote : Char} {cs text rest : List Char}
    (ends : EndsBy quote cs text rest .quote) : text.getLast? = some quote := by
  cases ends
  exact List.getLast?_concat

end Lexeme

namespace Token

theorem contents?_eq_some_iff {token : Token} (kind : token.kind = .str) {quote : Char}
    {rest : List Char} (text : token.text.toList = quote :: rest) {value : String} :
    token.contents? = some value ↔ rest = value.toList ++ [quote] := by
  simp only [contents?, kind, text, if_true]
  split_ifs with last
  · obtain ⟨inner, rfl⟩ := List.getLast?_eq_some_iff.1 last
    simp only [List.dropLast_concat, Option.some.injEq, List.append_left_inj, String.ext_iff,
      String.toList_ofList]
  · refine iff_of_false (by simp) fun whole => last ?_
    rw [whole, List.getLast?_concat]

theorem contents?_isSome_iff {token : Token} (kind : token.kind = .str) {quote : Char}
    {rest : List Char} (text : token.text.toList = quote :: rest) :
    token.contents?.isSome = true ↔ rest.getLast? = some quote := by
  simp only [contents?, kind, text, if_true]
  split_ifs with last
  · simp [last]
  · simp [last]

end Token

namespace Definition

def isNamedFunction : List Token → Bool
  | [] => false
  | token :: rest =>
    if token.spells "function" then (afterStar rest).2.head?.any Token.isIdentifier
    else
      match rest with
      | [] => false
      | word :: rest => token.spells "async" && word.spells "function" &&
          (afterStar rest).2.head?.any Token.isIdentifier

variable {before after : List Token} {token : Token} {place : Nat} {f : Definition}

theorem withAsync_named (before : List Token) {after : List Token} {word : Token}
    (keyword : word.spells "function" = true)
    (own : (afterStar after).2.head?.any Token.isIdentifier = true) :
    ∃ more, before.reverse ++ word :: after =
        (withAsync word before).2.reverse ++ (withAsync word before).1 :: more ∧
      isNamedFunction ((withAsync word before).1 :: more) = true := by
  cases before with
  | nil => exact ⟨after, rfl, by simp [withAsync, isNamedFunction, keyword, own]⟩
  | cons last before =>
    rw [withAsync]
    split_ifs with async
    · refine ⟨word :: after, by simp, ?_⟩
      have other : last.spells "function" = false := by
        rw [Token.spells_iff] at async
        simp [Token.spells, async.2]
      simp [isNamedFunction, other, async, keyword, own]
    · exact ⟨after, rfl, by simp [isNamedFunction, keyword, own]⟩

/-- A definition begins with the token `first`, which stands between `far`, read backwards, and
`more`. Its name comes from what stands before it, from the function itself, or it is a method
behind a brace or a comma. -/
structure Begins (f : Definition) (tokens far : List Token) (first : Token) (more : List Token) :
    Prop where
  whole : tokens = far.reverse ++ first :: more
  offset : f.offset = first.offset
  name : f.name = nameBefore? far ∨ isNamedFunction (first :: more) = true ∨
    ∃ last ∈ far.head?, last.isMark "\x7b" = true ∨ last.isMark "," = true

theorem ofKeyword?_begins (keyword : token.spells "function" = true)
    (found : ofKeyword? before place token after = some f) :
    ∃ far first more, f.Begins (before.reverse ++ token :: after) far first more := by
  simp only [ofKeyword?] at found
  obtain ⟨⟨head, body⟩, parts, found⟩ := Option.bind_eq_some_iff.1 found
  obtain ⟨params, read, found⟩ := Option.bind_eq_some_iff.1 found
  obtain rfl := Option.some.inj found
  by_cases own : (afterStar after).2.head?.any Token.isIdentifier = true
  · obtain ⟨more, whole, named⟩ := withAsync_named before keyword own
    exact ⟨_, _, more, whole, rfl, .inr (.inl named)⟩
  · obtain ⟨more, whole⟩ := Checked.withAsync_append token before after
    refine ⟨_, _, more, whole, rfl, .inl ?_⟩
    dsimp only
    cases behind : (afterStar after).2 with
    | nil =>
      rw [behind] at parts
      cases parts
    | cons ident rest =>
      have other : ¬ident.isIdentifier = true := by
        simpa [behind] using own
      rw [keywordName, if_neg other]

theorem ofArrow?_begins (found : ofArrow? before place after = some f) :
    ∃ far first more, f.Begins (before.reverse ++ token :: after) far first more := by
  simp only [ofArrow?] at found
  obtain ⟨⟨params, opener, far⟩, head, made⟩ := Option.bind_eq_some_iff.1 found
  cases before with
  | nil => cases head
  | cons last near =>
    obtain ⟨inside, whole⟩ := Checked.arrowHead?_append head (token :: after)
    obtain ⟨more, start⟩ := Checked.withAsync_append opener far inside
    have split : (last :: near).reverse ++ token :: after =
        (withAsync opener far).2.reverse ++ (withAsync opener far).1 :: more := by
      rw [← start, ← whole]
      simp
    cases after with
    | nil => cases made
    | cons next rest =>
      dsimp only at made
      split_ifs at made
      · obtain ⟨block, -, made⟩ := Option.bind_eq_some_iff.1 made
        cases made
        exact ⟨_, _, more, split, rfl, .inl rfl⟩
      · cases made
        exact ⟨_, _, more, split, rfl, .inl rfl⟩

theorem ofShorthand?_begins (found : ofShorthand? before place token after = some f) :
    ∃ far first more, f.Begins (before.reverse ++ token :: after) far first more := by
  unfold ofShorthand? at found
  obtain ⟨⟨head, body⟩, parts, found⟩ := Option.bind_eq_some_iff.1 found
  obtain ⟨params, -, found⟩ := Option.bind_eq_some_iff.1 found
  obtain rfl := Option.some.inj found
  unfold shorthandParts? at parts
  split_ifs at parts
  cases before with
  | nil => cases parts
  | cons last far =>
    dsimp only at parts
    split_ifs at parts with mark
    exact ⟨last :: far, token, after, rfl, rfl, .inr (.inr ⟨last, rfl, by simpa using mark⟩)⟩

theorem at?_begins (found : at? before place token after = some f) :
    ∃ far first more, f.Begins (before.reverse ++ token :: after) far first more := by
  unfold at? at found
  split_ifs at found with keyword arrow
  · exact ofKeyword?_begins keyword found
  · exact ofArrow?_begins found
  · exact ofShorthand?_begins found

theorem cut_unique {front front' behind behind' : List Token} {token token' : Token}
    (ascending : (front ++ token :: behind).Pairwise fun earlier later =>
      earlier.offset < later.offset)
    (whole : front ++ token :: behind = front' ++ token' :: behind')
    (same : token.offset = token'.offset) :
    front = front' ∧ token :: behind = token' :: behind' := by
  rcases Nat.lt_trichotomy front.length front'.length with later | equal | earlier
  · obtain ⟨more, rfl, rfl⟩ := cut_later_cons whole later
    have ahead := (List.pairwise_cons.1 (List.pairwise_append.1 ascending).2.1).1 token' (by simp)
    omega
  · exact List.append_inj whole equal
  · obtain ⟨more, rfl, rfl⟩ := cut_later_cons whole.symm earlier
    rw [whole] at ascending
    have ahead := (List.pairwise_cons.1 (List.pairwise_append.1 ascending).2.1).1 token (by simp)
    omega

theorem name_of_assigned {tokens front rest : List Token} {key op first : Token}
    (ascending : tokens.Pairwise fun earlier later => earlier.offset < later.offset)
    (whole : tokens = front ++ key :: op :: first :: rest)
    (gives : op.isMark "=" = true ∨ op.isMark ":" = true)
    (unknown : nameBefore? (op :: key :: front.reverse) = none)
    (plain : isNamedFunction (first :: rest) = false) (member : f ∈ definitions tokens)
    (starts : f.offset = first.offset) : f.name = none := by
  obtain ⟨before, token, bridge, behind, reveals⟩ := reveals_of_mem member
  obtain ⟨far, head, more, split, place, named⟩ := at?_begins reveals.found
  have cut : tokens = (front ++ [key, op]) ++ first :: rest := by
    rw [whole]
    simp
  have start : tokens = far.reverse ++ head :: more := reveals.whole.trans split
  rw [start] at ascending
  obtain ⟨reached, same⟩ := cut_unique ascending (start.symm.trans cut) (place.symm.trans starts)
  have near : far = op :: key :: front.reverse := by
    rw [← List.reverse_reverse far, reached]
    simp
  rcases named with before | own | ⟨last, nearest, mark⟩
  · rw [before, near, unknown]
  · rw [same, plain] at own
    cases own
  · rw [near] at nearest
    obtain rfl : op = last := by simpa using nearest
    rw [Token.isMark_iff, Token.isMark_iff] at gives mark
    rcases gives with ⟨-, given⟩ | ⟨-, given⟩ <;> rcases mark with ⟨-, text⟩ | ⟨-, text⟩ <;>
      exact absurd (given.symm.trans text) (by decide)

end Definition

open Lexeme in
/-- The contents of a string literal tell a closed one from one that is cut off, as long as no
hidden quote is the last character before the cut. -/
theorem contents?_of_ending {source : String} {token : Token} (member : token ∈ tokenize source)
    (kind : token.kind = .str) :
    ∃ ahead quote cs, source.toList = ahead ++ quote :: cs ∧
      token.offset = Text.byteWidth ahead ∧ isQuote quote = true ∧
      token.text.toList = quote :: (quoted quote cs).1 ∧
      EndsBy quote cs (quoted quote cs).1 (quoted quote cs).2 (endingOf quote cs) ∧
      (EndsInHiddenQuote quote cs → token.contents?.isSome = true) ∧
      (¬EndsInHiddenQuote quote cs →
        (∀ value, token.contents? = some value ↔
          endingOf quote cs = .quote ∧ token.text.toList = quote :: (value.toList ++ [quote])) ∧
        (endingOf quote cs ≠ .quote → token.contents? = none ∧
          ∀ front op first rest, tokenize source = front ++ token :: op :: first :: rest →
            (op.isMark "=" = true ∨ op.isMark ":" = true) →
            Definition.isNamedFunction (first :: rest) = false →
            ∀ f ∈ definitions (tokenize source), f.offset = first.offset → f.name = none)) := by
  obtain ⟨ahead, before, quote, cs, rest, whole, place, read⟩ := exists_read member
  rw [kind] at read
  obtain ⟨is, text, -⟩ := next_str read
  have ends := quoted_endsBy quote cs
  refine ⟨ahead, quote, cs, whole, place, is, text, ends, fun hides => ?_, fun noHidden => ?_⟩
  · rw [Token.contents?_isSome_iff kind text]
    obtain ⟨inner, split⟩ := hides.2
    rw [← split, List.getLast?_append]
    rfl
  have closes : ∀ value, token.contents? = some value ↔
      endingOf quote cs = .quote ∧ token.text.toList = quote :: (value.toList ++ [quote]) := by
    intro value
    rw [Token.contents?_eq_some_iff kind text, text, List.cons.injEq]
    refine ⟨fun inner => ⟨?_, rfl, inner⟩, fun closed => closed.2.2⟩
    have last : (quoted quote cs).1.getLast? = some quote := by
      rw [inner, List.getLast?_concat]
    by_contra other
    rcases ends.quote_last is last with closed | hides
    · exact other closed
    · exact noHidden ⟨other, hides⟩
  refine ⟨closes, fun other => ?_⟩
  have none : token.contents? = none := by
    by_contra some
    obtain ⟨value, found⟩ := Option.ne_none_iff_exists'.1 some
    exact other ((closes value).1 found).1
  refine ⟨none, fun front op first behind split gives plain f found starts => ?_⟩
  have unknown : Definition.nameBefore? (op :: token :: front.reverse) = Option.none := by
    simp [Definition.nameBefore?, kind, none]
  exact Definition.name_of_assigned (tokenize_ascending source) split gives unknown plain found
    starts

/-- A key that a line feed cuts off, and the function behind it. -/
theorem contents?_of_ending_key :
    let source := "m=\x7b\"k\n:function(a)\x7b\x7d\x7d"
    let key : Token := ⟨.str, "\"k", 3⟩
    let f : Definition := ⟨none, ["a"], [], 10, 7⟩
    key ∈ tokenize source ∧ key.kind = .str ∧ key.contents? = none ∧
      f ∈ definitions (tokenize source) ∧ f.name = none := by
  intro source key f
  have split : tokenize source =
      [⟨.ident, "m", 0⟩, ⟨.punct, "=", 1⟩, ⟨.punct, "\x7b", 2⟩] ++
        key :: ⟨.punct, ":", 6⟩ :: ⟨.ident, "function", 7⟩ ::
          [⟨.punct, "(", 15⟩, ⟨.ident, "a", 16⟩, ⟨.punct, ")", 17⟩, ⟨.punct, "\x7b", 18⟩,
            ⟨.punct, "\x7d", 19⟩, ⟨.punct, "\x7d", 20⟩] := by
    unfold source key
    decide +kernel
  have found : f ∈ definitions (tokenize source) := by
    have all : definitions (tokenize source) = [f] := by
      unfold source f
      decide +kernel
    rw [all]
    exact .head _
  have member : key ∈ tokenize source := by
    rw [split]
    simp
  obtain ⟨ahead, quote, cs, -, -, -, text, ends, -, tells⟩ := contents?_of_ending member rfl
  have chars : key.text.toList = ['"', 'k'] := by
    decide
  rw [chars] at text
  obtain ⟨rfl, inner⟩ := List.cons.inj text
  rw [← inner] at ends
  have noHidden : ¬Lexeme.EndsInHiddenQuote '"' cs := by
    rintro ⟨-, hides⟩
    rw [← inner] at hides
    exact absurd hides (by decide)
  have cut : Lexeme.endingOf '"' cs ≠ .quote := by
    intro closed
    rw [closed] at ends
    exact absurd ends.closed_last (by decide)
  obtain ⟨none, unnamed⟩ := (tells noHidden).2 cut
  exact ⟨member, rfl, none, found, unnamed _ _ _ _ split (.inr rfl) rfl f found rfl⟩

/-- A hidden quote right before the cut is taken for the closing one, and its text for a name. -/
theorem contents?_of_hidden_quote :
    let source := "m=\x7b\"k\\\"\n:function(a)\x7b\x7d\x7d"
    let key : Token := ⟨.str, "\"k\\\"", 3⟩
    key ∈ tokenize source ∧ key.kind = .str ∧
      Lexeme.endingOf '"' (source.toList.drop 4) = .lineFeed ∧ key.contents? = some "k\\" ∧
      (definitions (tokenize source)).map Definition.name = [some "k\\"] := by
  decide +kernel

end PlayerCipher
