import PlayerCipher.Proofs.Checked.Lexeme
import PlayerCipher.Proofs.Script.Lines
import PlayerCipher.Proofs.Script.Offsets

/-! Coverage of a script by its tokens.
The lexemes of a script, one behind the other, are the script. Between two tokens stand layout,
whole comments and single characters that begin no token, so that nothing else of a script is
lost on the way to its tokens. -/

namespace PlayerCipher

namespace Lexeme

/-- Skipped pieces of text, each in front of the text `after`. A comment ends at the first mark
that can end it. -/
inductive IsSkipped : (piece after : List Char) → Prop where
  | layout {c : Char} {after : List Char} (layout : Text.isLayout c = true) : IsSkipped [c] after
  | line {text after : List Char} (oneLine : '\n' ∉ text) (ends : AtLineEnd after) :
      IsSkipped ('/' :: '/' :: text) after
  | block {text after : List Char} (first : ¬['*', '/'] <:+: text ++ ['*']) :
      IsSkipped ('/' :: '*' :: (text ++ ['*', '/'])) after
  | openBlock {text : List Char} (none : ¬['*', '/'] <:+: text) :
      IsSkipped ('/' :: '*' :: text) []
  | stray {c : Char} {after : List Char} (ascii : Text.isAscii c = true)
      (noWord : isIdentChar c = false) (noDigit : c.isDigit = false) (noQuote : isQuote c = false)
      (noMark : ∀ punct ∈ punctuators, punct.toList.head? ≠ some c) : IsSkipped [c] after

inductive IsGap : (gap after : List Char) → Prop where
  | nil {after : List Char} : IsGap [] after
  | cons {piece gap after : List Char} (first : IsSkipped piece (gap ++ after))
      (others : IsGap gap after) : IsGap (piece ++ gap) after

theorem IsGap.append {left right after : List Char} (first : IsGap left (right ++ after))
    (others : IsGap right after) : IsGap (left ++ right) after := by
  generalize behind : right ++ after = rest at first
  induction first with
  | nil => exact others
  | cons piece _ ih =>
    subst behind
    rw [List.append_assoc]
    rw [← List.append_assoc] at piece
    exact .cons piece (ih rfl)

theorem IsSkipped.gap {piece after : List Char} (skipped : IsSkipped piece after) :
    IsGap piece after := by
  have single : IsGap (piece ++ []) after := .cons skipped .nil
  rwa [List.append_nil] at single

theorem noMark_cons {c : Char} {cs : List Char} (none : ¬['*', '/'] <:+: cs)
    (notHere : c = '*' → cs.head? ≠ some '/') : ¬['*', '/'] <:+: c :: cs := by
  intro inside
  rcases List.infix_cons_iff.1 inside with here | later
  · obtain ⟨star, slash⟩ := List.cons_prefix_cons.1 here
    refine notHere star.symm ?_
    obtain ⟨more, rfl⟩ := slash
    rfl
  · exact none later

theorem blockComment_ends (cs : List Char) :
    (∃ text, (blockComment cs).1 = text ++ ['*', '/'] ∧ ¬['*', '/'] <:+: text ++ ['*']) ∨
      (blockComment cs).1 = cs ∧ (blockComment cs).2 = [] ∧ ¬['*', '/'] <:+: cs := by
  fun_induction blockComment cs with
  | case1 => exact .inr ⟨rfl, rfl, by simp⟩
  | case2 cs => exact .inl ⟨[], rfl, by decide⟩
  | case3 c cs other text rest inner ih =>
    have whole : text ++ rest = cs := by
      simpa [inner] using blockComment_append cs
    have notHere : c = '*' → cs.head? ≠ some '/' := by
      intro star slash
      obtain ⟨more, shape⟩ := List.head?_eq_some_iff.1 slash
      exact other more star shape
    rw [inner] at ih
    dsimp only at ih ⊢
    rcases ih with ⟨body, rfl, first⟩ | ⟨rfl, ends, none⟩
    · refine .inl ⟨c :: body, rfl, noMark_cons first fun star slash => notHere star ?_⟩
      cases body with
      | nil => cases slash
      | cons d ds => rwa [← whole]
    · exact .inr ⟨rfl, ends, noMark_cons none notHere⟩

theorem punctuators_head : ∀ punct ∈ punctuators, ∃ single ∈ punctuators,
    single.toList = punct.toList.take 1 := by
  decide

theorem isSkipped_stray {c : Char} {cs after : List Char} (word : ¬isIdentChar c = true)
    (quote : ¬isQuote c = true)
    (none : punctuators.find? (fun punct => punct.toList.isPrefixOf (c :: cs)) = none) :
    IsSkipped [c] after := by
  have wide : ¬(!Text.isAscii c) = true := fun wide =>
    word (by rw [isIdentChar, wide, Bool.or_true])
  have digit : ¬c.isDigit = true := fun digit =>
    word (by rw [isIdentChar, Text.isNameChar, Char.isAlphanum, digit]; simp)
  refine .stray (by simpa using wide) (by simpa using word) (by simpa using digit)
    (by simpa using quote) ?_
  intro punct member first
  obtain ⟨single, known, chars⟩ := punctuators_head punct member
  have begins : single.toList = [c] := by
    obtain ⟨more, shape⟩ := List.head?_eq_some_iff.1 first
    rw [chars, shape, List.take_succ_cons, List.take_zero]
  have noPrefix := List.find?_eq_none.1 none single known
  rw [begins] at noPrefix
  simp at noPrefix

theorem isSkipped_next {before : Option Token} {c : Char} {cs : List Char}
    (skipped : (next before c cs).1.kind = none) :
    IsSkipped (next before c cs).1.text (next before c cs).2 := by
  revert skipped
  fun_cases next before c cs with
  | case1 layout => exact fun _ => .layout layout
  | case2 _ slashes =>
    obtain ⟨rfl, second⟩ := slashes
    obtain ⟨ds, rfl⟩ := List.head?_eq_some_iff.1 second
    refine fun _ => @IsSkipped.line (ds.takeWhile (· != '\n')) _ ?_ ?_
    · intro feed
      have passes := List.all_eq_true.1 (List.all_takeWhile (p := (· != '\n')) (l := ds)) _ feed
      exact absurd passes (by decide)
    · intro d first
      have stops := List.head?_dropWhile_not (· != '\n') ('/' :: ds)
      rw [show List.head? _ = some d from first] at stops
      simpa using stops
  | case3 _ _ opens text rest comment =>
    obtain ⟨rfl, second⟩ := opens
    obtain ⟨ds, rfl⟩ := List.head?_eq_some_iff.1 second
    have closes := blockComment_ends ds
    rw [List.tail_cons] at comment
    rw [comment] at closes
    intro _
    rcases closes with ⟨body, rfl, first⟩ | ⟨rfl, rfl, none⟩
    · exact .block first
    · exact .openBlock none
  | case10 _ _ _ noQuote _ noWord _ noMark => exact fun _ => isSkipped_stray noWord noQuote noMark
  | _ => rintro ⟨⟩

/-- Whether each lexeme of a run is what is read in front of those behind it. -/
def IsReading : List Lexeme → Prop
  | [] => True
  | lexeme :: lexemes =>
    (∃ before c cs, next before c cs = (lexeme, written lexemes)) ∧ IsReading lexemes

theorem IsReading.at {front back : List Lexeme} {lexeme : Lexeme}
    (reading : IsReading (front ++ lexeme :: back)) :
    ∃ before c cs, next before c cs = (lexeme, written back) := by
  induction front with
  | nil => exact reading.1
  | cons first front ih => exact ih reading.2

theorem scan_reading (before : Option Token) (offset : Nat) (done : List (Lexeme × Nat))
    (source : List Char) :
    ∃ lexemes, scan before offset done source = done.reverse ++ placed offset lexemes ∧
      written lexemes = source ∧ IsReading lexemes := by
  fun_induction scan before offset done source with
  | case1 before offset done => exact ⟨[], by simp [placed], rfl, trivial⟩
  | case2 before offset done c cs lexeme ih =>
    obtain ⟨lexemes, behind, whole, reading⟩ := ih
    refine ⟨lexeme :: lexemes, ?_, ?_, ⟨before, c, cs, Prod.ext rfl whole.symm⟩, reading⟩
    · rw [behind]
      simp [placed]
    · rw [written_cons, whole]
      exact next_append before c cs

variable {lexemes : List Lexeme} {token : Token}

theorem mem_tokensFrom : ∀ {offset}, token ∈ tokensFrom offset lexemes →
    ∃ front lexeme back, lexemes = front ++ lexeme :: back ∧
      lexeme.token? (offset + Text.byteWidth (written front)) = some token := by
  induction lexemes with
  | nil =>
    intro offset member
    cases member
  | cons lexeme lexemes ih =>
    intro offset member
    have later : token ∈ tokensFrom (offset + Text.byteWidth lexeme.text) lexemes →
        ∃ front inner back, lexeme :: lexemes = front ++ inner :: back ∧
          inner.token? (offset + Text.byteWidth (written front)) = some token := by
      intro member
      obtain ⟨front, inner, back, split, read⟩ := ih member
      refine ⟨lexeme :: front, inner, back, by rw [split]; rfl, ?_⟩
      rwa [written_cons, Text.byteWidth_append, ← Nat.add_assoc]
    rw [tokensFrom] at member
    cases here : lexeme.token? offset with
    | none =>
      rw [here] at member
      exact later member
    | some first =>
      rw [here] at member
      rcases List.mem_cons.1 member with rfl | member
      · exact ⟨[], lexeme, lexemes, rfl, here⟩
      · exact later member

end Lexeme

theorem tokenize_reading (source : String) :
    ∃ lexemes, tokenize source = Lexeme.tokensFrom 0 lexemes ∧
      Lexeme.written lexemes = source.toList ∧ Lexeme.IsReading lexemes := by
  obtain ⟨lexemes, placed, whole, reading⟩ := Lexeme.scan_reading none 0 [] source.toList
  refine ⟨lexemes, ?_, whole, reading⟩
  rw [tokenize, PlayerCipher.lexemes, placed, List.reverse_nil, List.nil_append,
    Lexeme.filterMap_placed]

theorem exists_read {source : String} {token : Token} (member : token ∈ tokenize source) :
    ∃ ahead before c cs rest, source.toList = ahead ++ c :: cs ∧
      token.offset = Text.byteWidth ahead ∧
      Lexeme.next before c cs = (⟨some token.kind, token.text.toList⟩, rest) := by
  obtain ⟨lexemes, tokens, whole, reading⟩ := tokenize_reading source
  rw [tokens] at member
  obtain ⟨front, lexeme, back, rfl, read⟩ := Lexeme.mem_tokensFrom member
  obtain ⟨before, c, cs, next⟩ := reading.at
  obtain ⟨kind, is, rfl⟩ := Option.map_eq_some_iff.1 read
  have chars := Lexeme.next_append before c cs
  rw [next] at chars
  refine ⟨Lexeme.written front, before, c, cs, Lexeme.written back, ?_, by simp, ?_⟩
  · rw [← whole, Lexeme.written_append, Lexeme.written_cons, ← chars]
  · rw [next, ← is, String.toList_ofList]

namespace Token

def stop (token : Token) : Nat :=
  token.offset + token.text.utf8ByteSize

/-- The stretches of bytes from `start` up to `stop` that no token of the run covers. -/
def gapsBetween (start stop : Nat) : List Token → List (Nat × Nat)
  | [] => [(start, stop)]
  | token :: tokens => (start, token.offset) :: gapsBetween token.stop stop tokens

end Token

namespace Lexeme

open Checked

theorem token?_stop {lexeme : Lexeme} {offset : Nat} {token : Token}
    (read : lexeme.token? offset = some token) :
    token.offset = offset ∧ token.stop = offset + Text.byteWidth lexeme.text := by
  obtain ⟨kind, -, rfl⟩ := Option.map_eq_some_iff.1 read
  exact ⟨rfl, by rw [Token.stop, utf8ByteSize_toList, String.toList_ofList]⟩

theorem offset_le_of_mem {lexemes : List Lexeme} {token : Token} {offset : Nat}
    (member : token ∈ tokensFrom offset lexemes) : offset ≤ token.offset := by
  obtain ⟨front, lexeme, back, -, read⟩ := mem_tokensFrom member
  rw [(token?_stop read).1]
  exact Nat.le_add_right _ _

theorem tokensFrom_apart (lexemes : List Lexeme) : ∀ offset,
    (tokensFrom offset lexemes).Pairwise fun earlier later => earlier.stop ≤ later.offset := by
  induction lexemes with
  | nil =>
    intro offset
    exact .nil
  | cons lexeme lexemes ih =>
    intro offset
    rw [tokensFrom]
    cases read : lexeme.token? offset with
    | none => exact ih _
    | some token =>
      refine List.pairwise_cons.2 ⟨fun later member => ?_, ih _⟩
      rw [(token?_stop read).2]
      exact offset_le_of_mem member

theorem tail_ok {source : String} {ahead behind : List Char}
    (whole : source.toList = ahead ++ behind) {start : Nat}
    (starts : start = Text.byteWidth ahead) :
    Checked.text source start source.utf8ByteSize = .ok (String.ofList behind) := by
  have parts : source.toList = ahead ++ behind ++ [] := by
    rw [List.append_nil, whole]
  refine text_ok parts starts ?_
  rw [utf8ByteSize_toList, whole, Text.byteWidth_append]

/-- Behind `ahead` and skipped text, the tokens of a reading leave only skipped text uncovered. -/
theorem gap_of_mem {source : String} {lexemes : List Lexeme} (reading : IsReading lexemes) :
    ∀ (ahead skipped : List Char) {start offset : Nat} {gap : Nat × Nat},
      source.toList = ahead ++ (skipped ++ written lexemes) →
      IsGap skipped (written lexemes) → start = Text.byteWidth ahead →
      offset = Text.byteWidth (ahead ++ skipped) →
      gap ∈ Token.gapsBetween start source.utf8ByteSize (tokensFrom offset lexemes) →
      ∃ text after, Checked.text source gap.1 gap.2 = .ok (String.ofList text) ∧
        Checked.text source gap.2 source.utf8ByteSize = .ok (String.ofList after) ∧
        IsGap text after := by
  induction lexemes with
  | nil =>
    intro ahead skipped start offset gap whole skips starts _ member
    rw [written_nil, List.append_nil] at whole
    obtain rfl := List.mem_singleton.1 member
    have last : source.toList = (ahead ++ skipped) ++ [] := by
      rw [List.append_nil, whole]
    refine ⟨skipped, [], tail_ok whole starts, tail_ok last ?_, skips⟩
    rw [utf8ByteSize_toList, whole]
  | cons lexeme lexemes ih =>
    intro ahead skipped start offset gap whole skips starts stands member
    obtain ⟨⟨before, c, cs, read⟩, others⟩ := reading
    have moved : offset + Text.byteWidth lexeme.text =
        Text.byteWidth ((ahead ++ skipped) ++ lexeme.text) := by
      rw [Text.byteWidth_append _ lexeme.text, stands]
    rw [tokensFrom] at member
    cases here : lexeme.token? offset with
    | none =>
      -- One more skipped piece.
      have none : (next before c cs).1.kind = none := by
        rw [read]
        exact Option.map_eq_none_iff.1 here
      have piece := isSkipped_next none
      rw [read] at piece
      rw [here] at member
      refine ih others ahead (skipped ++ lexeme.text) ?_ (skips.append piece.gap) starts ?_
        member
      · rw [whole, written_cons, List.append_assoc]
      · rw [moved, List.append_assoc]
    | some token =>
      rw [here, Token.gapsBetween] at member
      obtain ⟨placed, stops⟩ := token?_stop here
      rcases List.mem_cons.1 member with rfl | member
      · have cut : source.toList = (ahead ++ skipped) ++ written (lexeme :: lexemes) := by
          rw [whole, List.append_assoc]
        have width : token.offset = Text.byteWidth ahead + Text.byteWidth skipped := by
          rw [placed, stands, Text.byteWidth_append]
        exact ⟨skipped, written (lexeme :: lexemes), text_ok cut starts width,
          tail_ok cut (placed.trans stands), skips⟩
      · refine ih others ((ahead ++ skipped) ++ lexeme.text) [] ?_ .nil (stops.trans moved) ?_
          member
        · rw [whole, written_cons]
          simp
        · rw [moved, List.append_nil]

end Lexeme

/-- Each token is the text of the source at its place; tokens do not overlap, and stand in the order
of the source; and what they leave out of it, in front of them, between them and behind them, is
layout, comments and stray characters. -/
theorem tokenize_covers (source : String) :
    (∀ token ∈ tokenize source, token.text ≠ "" ∧
        Checked.text source token.offset token.stop = .ok token.text) ∧
      ((tokenize source).Pairwise fun earlier later =>
        earlier.stop ≤ later.offset ∧ earlier.offset < later.offset) ∧
      ∀ gap ∈ Token.gapsBetween 0 source.utf8ByteSize (tokenize source),
        ∃ text after, Checked.text source gap.1 gap.2 = .ok (String.ofList text) ∧
          Checked.text source gap.2 source.utf8ByteSize = .ok (String.ofList after) ∧
          Lexeme.IsGap text after := by
  refine ⟨fun token member => ?_, ?_, ?_⟩
  · obtain ⟨ahead, before, c, cs, rest, whole, place, read⟩ := exists_read member
    have chars := Lexeme.next_append before c cs
    have nonempty := Lexeme.next_text_ne_nil before c cs
    rw [read] at chars nonempty
    refine ⟨fun empty => nonempty (by rw [empty]; rfl), ?_⟩
    have piece := @Checked.text_ok source ahead token.text.toList rest
      (by rw [whole, ← chars, List.append_assoc]) token.offset token.stop place
      (by rw [Token.stop, place, Checked.utf8ByteSize_toList])
    rwa [String.ofList_toList] at piece
  · obtain ⟨lexemes, tokens, -, -⟩ := tokenize_reading source
    refine List.Pairwise.and ?_ (tokenize_ascending source)
    rw [tokens]
    exact Lexeme.tokensFrom_apart lexemes 0
  · obtain ⟨lexemes, tokens, whole, reading⟩ := tokenize_reading source
    intro gap member
    rw [tokens] at member
    exact Lexeme.gap_of_mem reading [] [] whole.symm .nil rfl rfl member

/-- Blanks, a comment and a stray backslash between two tokens. -/
theorem tokenize_covers_comment :
    let source := "a /*b*/ \\ c"
    let last : Token := ⟨.ident, "c", 10⟩
    last ∈ tokenize source ∧ Checked.text source last.offset last.stop = .ok last.text ∧
      (1, 10) ∈ Token.gapsBetween 0 source.utf8ByteSize (tokenize source) ∧
      ∃ text after, Checked.text source 1 10 = .ok (String.ofList text) ∧
        Checked.text source 10 source.utf8ByteSize = .ok (String.ofList after) ∧
        Lexeme.IsGap text after := by
  intro source last
  obtain ⟨tokens, -, gaps⟩ := tokenize_covers source
  have member : last ∈ tokenize source := by
    unfold source last
    decide +kernel
  have between : (1, 10) ∈ Token.gapsBetween 0 source.utf8ByteSize (tokenize source) := by
    unfold source
    decide +kernel
  exact ⟨member, (tokens last member).2, between, gaps _ between⟩

end PlayerCipher
