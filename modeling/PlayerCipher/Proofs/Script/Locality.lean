import Mathlib
import PlayerCipher.Proofs.Script.Tree

/-! Definitions of a run put together from two.
Between two runs stands a semicolon, and the first of them closes its brackets. What is looked for
in the first run, forwards, then ends in front of the semicolon, and what is looked for in the
second, backwards, behind it: the definitions of the whole are those of the first run, and those of
the second moved by its place. -/

namespace PlayerCipher

namespace Bracket

open Token

theorem pairAt_reverse (ts rest : List Token) :
    ∀ {depth after : Nat} (more place : Nat), depthAfter depth ts = some after →
      pairAt closes opens (after + more + 1) place (ts.reverse ++ rest) =
        pairAt closes opens (depth + more + 1) (place + ts.length) rest := by
  induction ts generalizing rest with
  | nil =>
    intro depth after more place known
    cases known
    rfl
  | cons token ts ih =>
    intro depth after more place known
    rw [depthAfter] at known
    rw [List.reverse_cons, List.append_assoc, List.singleton_append, List.length_cons,
      ← Nat.add_assoc]
    split_ifs at known with up down bottom
    · have deeper : depth + 1 + more + 1 = depth + more + 2 := by
        omega
      rw [ih (token :: rest) more place known, deeper]
      simp [pairAt, up, closes_of_opens up]
    · obtain ⟨below, rfl⟩ := Nat.exists_eq_succ_of_ne_zero bottom
      have deeper : below.succ + more + 1 = below + more + 1 + 1 := by
        omega
      have next : depthAfter below ts = some after := known
      rw [ih (token :: rest) more place next, deeper]
      simp only [pairAt, if_pos down]
    · rw [ih (token :: rest) more place known]
      simp only [pairAt, if_neg down, if_neg up]

theorem pairAt_append_none {up down : Token → Bool} {behind : List Token}
    (none : ∀ depth place, pairAt up down (depth + 1) place behind = none) (run : List Token) :
    ∀ depth place, pairAt up down (depth + 1) place (run ++ behind) =
      pairAt up down (depth + 1) place run := by
  induction run with
  | nil => exact none
  | cons token run ih =>
    intro depth place
    simp only [List.cons_append, pairAt]
    split_ifs
    · exact ih _ _
    · cases depth with
      | zero => rfl
      | succ depth => exact ih _ _
    · exact ih _ _

/-- A run that closes its brackets, and all that are open before it. -/
def Closing (run : List Token) : Prop :=
  ∃ depth, depthAfter depth run = some 0

theorem Closing.of_append {front behind : List Token} (closing : Closing (front ++ behind)) :
    Closing behind := by
  obtain ⟨depth, closed⟩ := closing
  rw [depthAfter_append] at closed
  obtain ⟨after, -, rest⟩ := Option.bind_eq_some_iff.1 closed
  exact ⟨after, rest⟩

end Bracket

namespace Statement

open PlayerCipher.Bracket

theorem endFrom_closed {mark : Token} (separates : mark.separates = true) (rest : List Token)
    (run : List Token) :
    ∀ {open' depth : Nat} (place : Nat), depthAfter open' run = some 0 → depth ≤ open' →
      endFrom depth place (run ++ mark :: rest) = endFrom depth place run := by
  obtain ⟨noOpen, noClose⟩ := level_of_separates separates
  induction run with
  | nil =>
    intro open' depth place closed within
    cases closed
    obtain rfl := Nat.le_zero.1 within
    simp [endFrom, noOpen, noClose, separates]
  | cons token run ih =>
    intro open' depth place closed within
    rw [depthAfter] at closed
    simp only [List.cons_append, endFrom]
    split_ifs at closed ⊢ with opens closes bottom separates
    · exact ih _ closed (Nat.succ_le_succ within)
    · cases depth with
      | zero => rfl
      | succ depth => exact ih _ closed (by omega)
    · rfl
    · exact ih _ closed within

theorem expressionLength_closing {mark : Token} (separates : mark.separates = true)
    {run : List Token} (closing : Closing run) (rest : List Token) :
    expressionLength (run ++ mark :: rest) = expressionLength run := by
  obtain ⟨depth, closed⟩ := closing
  exact endFrom_closed separates rest run 0 closed (Nat.zero_le depth)

end Statement

namespace Definition

open PlayerCipher.Bracket Statement

variable {before after far : List Token} {token mark : Token} {place : Nat}

section

variable (semicolon : mark.isMark ";" = true)

include semicolon

theorem separates_of_semicolon : mark.separates = true := by
  simp [Token.separates, semicolon]

theorem braced?_closing (closing : Closing after) (rest : List Token) :
    braced? (after ++ mark :: rest) = braced? after := by
  obtain ⟨depth, closed⟩ := closing
  refine braced?_within closed fun next head => ?_
  obtain rfl := Option.some.inj head
  exact ⟨Token.isMark_of_ne semicolon (by decide), Token.isMark_of_ne semicolon (by decide)⟩

theorem afterStar_closing (rest : List Token) :
    afterStar (after ++ mark :: rest) =
      ((afterStar after).1, (afterStar after).2 ++ mark :: rest) := by
  cases after with
  | nil => simp [afterStar, Token.isMark_of_ne semicolon (show ";" ≠ "*" by decide)]
  | cons star after =>
    rw [List.cons_append, afterStar, afterStar]
    split_ifs <;> rfl

theorem ofKeyword?_closing (closing : Closing after) (rest : List Token) :
    ofKeyword? before place token (after ++ mark :: rest) =
      ofKeyword? before place token after := by
  obtain ⟨stars, split, -, -⟩ := afterStar_append after
  simp only [ofKeyword?]
  rw [afterStar_closing semicolon]
  rw [split] at closing
  replace closing := closing.of_append
  generalize (afterStar after).2 = named at closing
  cases named with
  | nil =>
    have unread : braced? (mark :: rest) = none := braced?_closing semicolon closing rest
    have noName : ¬mark.isIdentifier = true := by
      simp [Token.isIdentifier, (Token.isMark_iff.1 semicolon).1]
    have unread' : braced? [] = none := rfl
    simp [keywordName, noName, unread, unread']
  | cons ident behind =>
    rw [List.cons_append, keywordName, keywordName]
    split_ifs
    · rw [braced?_closing semicolon (@Closing.of_append [ident] behind closing)]
    · rw [← List.cons_append, braced?_closing semicolon closing]

theorem ofArrow?_closing (closing : Closing after) (more : after ≠ []) (rest : List Token) :
    ofArrow? before place (after ++ mark :: rest) = ofArrow? before place after := by
  cases after with
  | nil => exact absurd rfl more
  | cons first tokens =>
    simp only [ofArrow?, List.cons_append]
    congr 1
    funext head
    split_ifs with braces
    · obtain ⟨depth, closed⟩ := closing
      obtain ⟨inner, closer, behind, rfl, balanced, closes, -⟩ :=
        closed_of_opened (Checked.opens_of_isMark (.inr rfl) braces) closed
      rw [List.append_assoc, List.cons_append, cut?_balanced balanced closes,
        cut?_balanced balanced closes]
      rfl
    · have length := expressionLength_closing (separates_of_semicolon semicolon) closing rest
      have bound : expressionLength (first :: tokens) ≤ (first :: tokens).length := by
        have bound := endFrom_le (first :: tokens) 0 0
        rwa [Nat.zero_add] at bound
      rw [List.cons_append] at length
      rw [length, ← List.cons_append, List.take_append_of_le_length bound]

theorem ofShorthand?_closing (closing : Closing after) (rest : List Token) :
    ofShorthand? before place token (after ++ mark :: rest) =
      ofShorthand? before place token after := by
  simp only [ofShorthand?, shorthandParts?, braced?_closing semicolon closing]

theorem at?_closing (closing : Closing after) (more : token.isMark "=>" = true → after ≠ [])
    (rest : List Token) :
    at? before place token (after ++ mark :: rest) = at? before place token after := by
  unfold at?
  split_ifs with keyword arrow
  · exact ofKeyword?_closing semicolon closing rest
  · exact ofArrow?_closing semicolon closing (more arrow) rest
  · exact ofShorthand?_closing semicolon closing rest

theorem at?_semicolon (before rest : List Token) (place : Nat) :
    at? before place mark rest = none := by
  have kind := (Token.isMark_iff.1 semicolon).1
  have noArrow := Token.isMark_of_ne semicolon (show ";" ≠ "=>" by decide)
  simp [at?, ofShorthand?, shorthandParts?, spells_of_isMark "function" semicolon, noArrow, kind]

theorem revealed_append (rest : List Token) (run : List Token) :
    ∀ {before place}, Closing run → (∀ last ∈ run.getLast?, last.isMark "=>" = false) →
      revealed before place (run ++ mark :: rest) =
        revealed before place run ++
          revealed (mark :: (run.reverse ++ before)) (place + run.length + 1) rest := by
  induction run with
  | nil =>
    intro before place _ _
    simp [revealed, at?_semicolon semicolon]
  | cons token run ih =>
    intro before place closing ends
    have more : token.isMark "=>" = true → run ≠ [] := by
      rintro arrow rfl
      rw [ends token rfl] at arrow
      cases arrow
    have ends' : ∀ last ∈ run.getLast?, last.isMark "=>" = false := by
      intro last final
      apply ends
      rw [List.getLast?_cons, final]
      rfl
    have closing' : Closing run := @Closing.of_append [token] run closing
    have further : place + (token :: run).length + 1 = place + 1 + run.length + 1 := by
      rw [List.length_cons]
      omega
    rw [List.cons_append, revealed, revealed, at?_closing semicolon closing' more,
      ih closing' ends', further]
    simp

theorem nameBefore?_behind (far : List Token) :
    nameBefore? (before ++ mark :: far) = nameBefore? before := by
  have kind := (Token.isMark_iff.1 semicolon).1
  match before with
  | [] =>
    have noEquals := Token.isMark_of_ne semicolon (show ";" ≠ "=" by decide)
    have noColon := Token.isMark_of_ne semicolon (show ";" ≠ ":" by decide)
    cases far <;> simp [nameBefore?, noEquals, noColon]
  | [op] => simp [nameBefore?, kind]
  | op :: target :: before => rfl

theorem withAsync_behind (first : Token) (far : List Token) :
    withAsync first (before ++ mark :: far) =
      ((withAsync first before).1, (withAsync first before).2 ++ mark :: far) := by
  cases before with
  | nil => simp [withAsync, spells_of_isMark "async" semicolon]
  | cons word before =>
    rw [List.cons_append, withAsync, withAsync]
    split_ifs <;> rfl

theorem keywordName_behind (after far : List Token) :
    keywordName (before ++ mark :: far) after = keywordName before after := by
  cases after with
  | nil => rfl
  | cons ident rest => rw [keywordName, keywordName, nameBefore?_behind semicolon]

end

def movedBy (count : Nat) (f : Definition) : Definition :=
  { f with bodyStart := count + f.bodyStart }

section

variable (semicolon : mark.isMark ";" = true)
  (level : ∀ depth place, pairAt Token.closes Token.opens (depth + 1) place (mark :: far) = none)

include semicolon

theorem ofKeyword?_behind (count : Nat) :
    ofKeyword? (before ++ mark :: far) (count + place) token after =
      (ofKeyword? before place token after).map (movedBy count) := by
  simp only [ofKeyword?]
  rw [withAsync_behind semicolon]
  dsimp only
  rw [keywordName_behind semicolon]
  cases braced? (keywordName (withAsync token before).2 (afterStar after).2).2.2 with
  | none => rfl
  | some parts =>
    simp only [Option.bind_eq_bind, Option.bind_some]
    cases parameters? parts.1 with
    | none => rfl
    | some params =>
      simp only [Option.bind_some, Option.map_some, movedBy, Option.some.injEq,
        Definition.mk.injEq, true_and, and_true]
      omega

theorem ofShorthand?_behind (count : Nat) :
    ofShorthand? (before ++ mark :: far) (count + place) token after =
      (ofShorthand? before place token after).map (movedBy count) := by
  have parts : shorthandParts? (before ++ mark :: far) token after =
      shorthandParts? before token after := by
    have noBrace := Token.isMark_of_ne semicolon (show ";" ≠ "\x7b" by decide)
    have noComma := Token.isMark_of_ne semicolon (show ";" ≠ "," by decide)
    cases before with
    | nil => simp [shorthandParts?, noBrace, noComma]
    | cons last before => rfl
  simp only [ofShorthand?, parts]
  cases shorthandParts? before token after with
  | none => rfl
  | some parts =>
    simp only [Option.bind_eq_bind, Option.bind_some]
    cases parameters? parts.1 with
    | none => rfl
    | some params =>
      simp only [Option.bind_some, Option.map_some, movedBy, Option.some.injEq,
        Definition.mk.injEq, true_and, and_true]
      omega

include level

theorem arrowHead?_behind :
    arrowHead? (before ++ mark :: far) =
      (arrowHead? before).map fun (params, opener, rest) =>
        (params, opener, rest ++ mark :: far) := by
  cases before with
  | nil =>
    have noCloser := Token.isMark_of_ne semicolon (show ";" ≠ ")" by decide)
    have noName : ¬mark.isIdentifier = true := by
      simp [Token.isIdentifier, (Token.isMark_iff.1 semicolon).1]
    simp [arrowHead?, noCloser, noName]
  | cons last before =>
    rw [List.cons_append, arrowHead?, arrowHead?]
    split_ifs with closes
    · have up := closes_of_isMark closes (.inl rfl)
      have same : openDistance? (last :: (before ++ mark :: far)) =
          openDistance? (last :: before) := by
        simp only [openDistance?, pairAt, if_pos up]
        exact pairAt_append_none level before 0 1
      rw [same]
      cases found : openDistance? (last :: before) with
      | none => rfl
      | some distance =>
        obtain ⟨inner, opener, before, rfl, rfl⟩ := Checked.openDistance?_append closes found
        simp only [Option.bind_eq_bind, Option.bind_some, Nat.add_sub_cancel, List.append_assoc,
          List.cons_append, List.take_left, List.drop_left]
        cases parameters? inner.reverse <;> rfl
    · rfl
    · rfl

theorem ofArrow?_behind (count : Nat) :
    ofArrow? (before ++ mark :: far) (count + place) after =
      (ofArrow? before place after).map (movedBy count) := by
  simp only [ofArrow?]
  rw [arrowHead?_behind semicolon level]
  cases arrowHead? before with
  | none => rfl
  | some head =>
    simp only [Option.map_some, Option.bind_eq_bind, Option.bind_some]
    rw [withAsync_behind semicolon]
    dsimp only
    rw [nameBefore?_behind semicolon]
    cases after with
    | nil => rfl
    | cons first tokens =>
      dsimp only
      split_ifs
      · cases cut? tokens <;> rfl
      · rfl

/-- A token of a run reveals the same with something before a semicolon, at a place further on. -/
theorem at?_behind (count : Nat) :
    at? (before ++ mark :: far) (count + place) token after =
      (at? before place token after).map (movedBy count) := by
  unfold at?
  split_ifs
  · exact ofKeyword?_behind semicolon count
  · exact ofArrow?_behind semicolon level count
  · exact ofShorthand?_behind semicolon count

theorem revealed_behind (count : Nat) (after : List Token) :
    ∀ {before place}, revealed (before ++ mark :: far) (count + place) after =
      (revealed before place after).map (movedBy count) := by
  induction after with
  | nil =>
    intro before place
    rfl
  | cons token after ih =>
    intro before place
    rw [revealed, revealed, at?_behind semicolon level, List.map_append, Nat.add_assoc,
      ← List.cons_append, ih]
    cases at? before place token after <;> rfl

end

theorem offset_of_mem {tokens : List Token} {f : Definition} (defined : f ∈ definitions tokens) :
    ∃ token ∈ tokens, f.offset = token.offset := by
  obtain ⟨before, token, bridge, rest, reveals⟩ := reveals_of_mem defined
  obtain ⟨far, first, more, split, place, -⟩ := at?_begins reveals.found
  refine ⟨first, ?_, place⟩
  rw [reveals.whole, split]
  simp

end Definition

open Definition PlayerCipher.Bracket Statement

/-- Finding functions is local: behind a run that closes its brackets and does not end in an arrow,
and a semicolon, the functions of any run are those that it has alone, further on. -/
theorem definitions_append {first second : List Token} {mark : Token} (balanced : Balanced first)
    (ends : ∀ last ∈ first.getLast?, last.isMark "=>" = false)
    (semicolon : mark.isMark ";" = true)
    (ascending : (first ++ mark :: second).Pairwise
      fun earlier later => earlier.offset < later.offset) :
    definitions (first ++ mark :: second) =
      definitions first ++ (definitions second).map (movedBy (first.length + 1)) := by
  have level : ∀ depth place,
      pairAt Token.closes Token.opens (depth + 1) place (mark :: first.reverse) = none := by
    intro depth place
    obtain ⟨noOpen, noClose⟩ := level_of_separates (separates_of_semicolon semicolon)
    have passed := pairAt_reverse first [] depth (place + 1) balanced
    simpa [pairAt, noOpen, noClose] using passed
  obtain ⟨ascending₁, ascending₂, across⟩ := List.pairwise_append.1 ascending
  have whole : revealed [] 0 (first ++ mark :: second) =
      revealed [] 0 first ++ (revealed [] 0 second).map (movedBy (first.length + 1)) := by
    have behind :=
      @revealed_behind first.reverse mark semicolon level (first.length + 1) second [] 0
    rw [revealed_append semicolon second first ⟨0, balanced⟩ ends, List.append_nil, Nat.zero_add]
    exact congrArg _ behind
  -- Both sides are what the tokens reveal, in the order of the offsets, which differ.
  apply @List.Perm.eq_of_pairwise _ fun f g : Definition => f.offset < g.offset
  · intro f g _ _ before behind
    exact absurd behind (Nat.lt_asymm before)
  · exact definitions_ascending ascending
  · refine List.pairwise_append.2 ⟨definitions_ascending ascending₁, ?_, ?_⟩
    · exact List.pairwise_map.2 (definitions_ascending (List.pairwise_cons.1 ascending₂).2)
    · intro f inFirst g inSecond
      obtain ⟨alone, defined, rfl⟩ := List.mem_map.1 inSecond
      obtain ⟨token, here, place⟩ := offset_of_mem inFirst
      obtain ⟨token', here', place'⟩ := offset_of_mem defined
      show f.offset < alone.offset
      rw [place, place']
      exact across token here token' (.tail _ here')
  · rw [definitions_eq_revealed, definitions_eq_revealed, definitions_eq_revealed, whole]
    refine (List.mergeSort_perm _ _).trans ?_
    exact ((List.mergeSort_perm _ _).append ((List.mergeSort_perm _ _).map _)).symm

/-- A second run that closes a bracket of the first, were there one left, and leaves one open. -/
theorem definitions_append_stray :
    let tokens := tokenize "f=function(a)\x7bg(b=>a[b],[c])\x7d;x)=>y;k=\x7bh(a)\x7ba\x7d"
    let first := tokens.take 21
    let second := tokens.drop 22
    let mark : Token := ⟨.punct, ";", 29⟩
    tokens = first ++ mark :: second ∧ Balanced first ∧ ¬Balanced second ∧
      (∀ last ∈ first.getLast?, last.isMark "=>" = false) ∧
      (definitions second).map Definition.name = [some "h"] ∧
      definitions tokens = definitions first ++ (definitions second).map (movedBy 22) := by
  intro tokens first second mark
  have read : tokens = first ++ mark :: second ∧ depthAfter 0 first = some 0 ∧
      depthAfter 0 second = none ∧ first.getLast? = some ⟨.punct, "\x7d", 28⟩ ∧
      first.length = 21 ∧ (definitions second).map Definition.name = [some "h"] := by
    unfold first second mark tokens
    cbv
  obtain ⟨whole, balanced, open', final, length, named⟩ := read
  have ends : ∀ last ∈ first.getLast?, last.isMark "=>" = false := by
    intro last here
    rw [final] at here
    cases here
    rfl
  have ascending := tokenize_ascending
    "f=function(a)\x7bg(b=>a[b],[c])\x7d;x)=>y;k=\x7bh(a)\x7ba\x7d"
  change tokens.Pairwise _ at ascending
  rw [whole] at ascending
  have parts := @definitions_append first second mark balanced ends rfl ascending
  rw [← whole, length] at parts
  refine ⟨whole, balanced, ?_, ends, named, parts⟩
  simp [Bracket.Balanced, open']

end PlayerCipher
