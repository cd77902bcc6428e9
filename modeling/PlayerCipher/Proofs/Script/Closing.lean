import PlayerCipher.Proofs.Script.Lines

/-! How string literals end.
A literal hides every text in which each of its quotes, and each line feed unless the quote is a
backtick, stands behind a backslash that hides it. It ends at the first character that it does not
hide, or with the source. -/

namespace PlayerCipher

namespace Lexeme

inductive Ending where
  | quote
  | lineFeed
  | sourceEnd
deriving DecidableEq, Repr

def endingOf (quote : Char) : List Char → Ending
  | [] => .sourceEnd
  | '\\' :: [] => .sourceEnd
  | '\\' :: _ :: cs => endingOf quote cs
  | c :: cs =>
    if c = '\n' ∧ quote ≠ '\x60' then .lineFeed
    else if c = quote then .quote
    else endingOf quote cs

/-- Whether the text hides in a literal: nothing in it ends the literal, and no backslash at its end
hides what follows. -/
def isHidden (quote : Char) : List Char → Bool
  | [] => true
  | '\\' :: [] => false
  | '\\' :: _ :: cs => isHidden quote cs
  | c :: cs => !(c == '\n' && quote != '\x60') && c != quote && isHidden quote cs

/-- The text and the rest of a literal behind its opening quote, by what ends it. -/
inductive EndsBy (quote : Char) : (cs text rest : List Char) → Ending → Prop where
  | quote {inner rest : List Char} (hidden : isHidden quote inner = true) :
      EndsBy quote (inner ++ quote :: rest) (inner ++ [quote]) rest .quote
  | lineFeed {inner rest : List Char} (hidden : isHidden quote inner = true)
      (single : quote ≠ '\x60') :
      EndsBy quote (inner ++ '\n' :: rest) inner ('\n' :: rest) .lineFeed
  | sourceEnd {inner : List Char} (hidden : isHidden quote inner = true) :
      EndsBy quote inner inner [] .sourceEnd
  | escapeEnd {inner : List Char} (hidden : isHidden quote inner = true) :
      EndsBy quote (inner ++ ['\\']) (inner ++ ['\\']) [] .sourceEnd

variable {quote c d : Char} {cs text rest inner : List Char}

theorem endingOf_cons (plain : c ≠ '\\') :
    endingOf quote (c :: cs) =
      if c = '\n' ∧ quote ≠ '\x60' then .lineFeed
      else if c = quote then .quote
      else endingOf quote cs := by
  rw [endingOf]
  · exact fun same => absurd same plain
  · exact fun _ _ same => absurd same plain

theorem isHidden_cons (plain : c ≠ '\\') :
    isHidden quote (c :: cs) =
      (!(c == '\n' && quote != '\x60') && c != quote && isHidden quote cs) := by
  rw [isHidden]
  · exact fun same => absurd same plain
  · exact fun _ _ same => absurd same plain

theorem EndsBy.prepend (piece : List Char) {ending : Ending}
    (hides : ∀ inner, isHidden quote inner = true → isHidden quote (piece ++ inner) = true)
    (ends : EndsBy quote cs text rest ending) :
    EndsBy quote (piece ++ cs) (piece ++ text) rest ending := by
  cases ends with
  | quote hidden =>
    rw [← List.append_assoc, ← List.append_assoc]
    exact .quote (hides _ hidden)
  | lineFeed hidden single =>
    rw [← List.append_assoc]
    exact .lineFeed (hides _ hidden) single
  | sourceEnd hidden => exact .sourceEnd (hides _ hidden)
  | escapeEnd hidden =>
    rw [← List.append_assoc]
    exact .escapeEnd (hides _ hidden)

theorem quoted_endsBy (quote : Char) (cs : List Char) :
    EndsBy quote cs (quoted quote cs).1 (quoted quote cs).2 (endingOf quote cs) := by
  fun_induction quoted quote cs with
  | case1 => exact .sourceEnd rfl
  | case2 => exact @EndsBy.escapeEnd quote [] rfl
  | case3 c cs text rest read ih =>
    rw [read] at ih
    exact ih.prepend ['\\', c] fun _ hidden => hidden
  | case4 c cs single escaped feed =>
    obtain ⟨rfl, other⟩ := feed
    rw [endingOf_cons (by decide), if_pos ⟨rfl, other⟩]
    exact @EndsBy.lineFeed quote [] cs rfl other
  | case5 cs single escaped within =>
    rw [endingOf_cons (ne_backslash single escaped), if_neg within, if_pos rfl]
    exact @EndsBy.quote quote [] cs rfl
  | case6 c cs single escaped within other text rest read ih =>
    have plain := ne_backslash single escaped
    rw [read] at ih
    rw [endingOf_cons plain, if_neg within, if_neg other]
    refine ih.prepend [c] fun inner hidden => ?_
    rw [List.singleton_append, isHidden_cons plain, hidden]
    simpa [other, or_iff_not_imp_left] using within

theorem quoted_hidden (hidden : isHidden quote inner = true) (rest : List Char) :
    quoted quote (inner ++ rest) =
      (inner ++ (quoted quote rest).1, (quoted quote rest).2) := by
  fun_induction isHidden quote inner with
  | case1 => rfl
  | case2 => cases hidden
  | case3 d cs ih => simp [quoted, ih hidden]
  | case4 c cs single escaped ih =>
    simp only [Bool.and_eq_true, Bool.not_eq_true', bne_iff_ne, ne_eq] at hidden
    obtain ⟨⟨within, other⟩, hidden⟩ := hidden
    have feed : ¬(c = '\n' ∧ quote ≠ '\x60') := by
      simpa using within
    rw [List.cons_append, quoted_cons (ne_backslash single escaped), if_neg feed, if_neg other,
      ih hidden]
    rfl

theorem hidden_last (hidden : isHidden quote inner = true) (last : inner.getLast? = some quote) :
    ['\\', quote] <:+ inner := by
  fun_induction isHidden quote inner with
  | case1 => cases last
  | case2 => cases hidden
  | case3 d cs ih =>
    cases cs with
    | nil =>
      obtain rfl : d = quote := by simpa using last
      exact List.suffix_refl _
    | cons e es =>
      have behind := ih hidden (by simpa [List.getLast?_cons] using last)
      exact behind.trans (List.suffix_append ['\\', d] (e :: es))
  | case4 c cs _ _ ih =>
    simp only [Bool.and_eq_true, bne_iff_ne, ne_eq] at hidden
    obtain ⟨⟨-, other⟩, hidden⟩ := hidden
    cases cs with
    | nil => exact absurd (by simpa using last) other
    | cons e es =>
      have behind := ih hidden (by simpa [List.getLast?_cons] using last)
      exact behind.trans (List.suffix_append [c] (e :: es))

end Lexeme

end PlayerCipher
