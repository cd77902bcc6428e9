import PlayerCipher.Proofs.Checked.Basic
import PlayerCipher.Script.Definition

/-! Checked steps over token runs.
Brackets are looked for by their places, and what stands between two of them is a slice. Each of
these steps gives what the definitions over the run before and behind a place give. -/

namespace PlayerCipher

namespace Bracket

variable {up down : Token → Bool}

theorem pairAt_place (tokens : List Token) (count : Nat) :
    ∀ depth place, pairAt up down depth (count + place) tokens =
      (pairAt up down depth place tokens).map (count + ·) := by
  induction tokens with
  | nil =>
    intro depth place
    rfl
  | cons token tokens ih =>
    intro depth place
    simp only [pairAt]
    split_ifs
    · exact ih (depth + 1) (place + 1)
    · match depth with
      | 0 => rfl
      | 1 => rfl
      | depth + 2 => exact ih (depth + 1) (place + 1)
    · exact ih depth (place + 1)

theorem pairAt_bound (tokens : List Token) :
    ∀ depth place found, pairAt up down depth place tokens = some found →
      place ≤ found ∧ found < place + tokens.length := by
  induction tokens with
  | nil =>
    intro depth place found pair
    cases pair
  | cons token tokens ih =>
    intro depth place found pair
    simp only [pairAt] at pair
    rw [List.length_cons]
    split_ifs at pair
    · have bound := ih _ _ _ pair
      omega
    · match depth, pair with
      | 1, pair =>
        cases pair
        omega
      | depth + 2, pair =>
        have bound := ih _ _ _ pair
        omega
    · have bound := ih _ _ _ pair
      omega

theorem inside?_eq (tokens : List Token) :
    inside? tokens = (cut? tokens).map fun cut => cut.inner.length := by
  rw [cut?, inside?]
  cases found : pairAt Token.opens Token.closes 1 0 tokens with
  | none => rfl
  | some n =>
    have bound := pairAt_bound tokens 1 0 n found
    have inside : n < tokens.length := by
      omega
    have length : min n tokens.length = n := Nat.min_eq_left (Nat.le_of_lt inside)
    simp only [List.drop_eq_getElem_cons inside, Option.map_some, List.length_take, length]

theorem closerOf?_append {before rest : List Token} {opener : Token}
    (opens : opener.opens = true) :
    closerOf? (before ++ opener :: rest) before.length =
      (cut? rest).map fun cut => before.length + 1 + cut.inner.length := by
  have place : before.length + 1 = before.length + 1 + 0 := rfl
  rw [closerOf?, List.drop_left, pairAt, if_pos opens, place, pairAt_place, ← inside?, inside?_eq,
    Option.map_map]
  rfl

end Bracket

namespace Statement

theorem endFrom_place (tokens : List Token) (count : Nat) :
    ∀ depth place, endFrom depth (count + place) tokens =
      count + endFrom depth place tokens := by
  induction tokens with
  | nil =>
    intro depth place
    rfl
  | cons token tokens ih =>
    intro depth place
    simp only [endFrom]
    split_ifs
    · exact ih (depth + 1) (place + 1)
    · match depth with
      | 0 => rfl
      | depth + 1 => exact ih depth (place + 1)
    · rfl
    · exact ih depth (place + 1)

theorem endFrom_le (tokens : List Token) :
    ∀ depth place, endFrom depth place tokens ≤ place + tokens.length := by
  induction tokens with
  | nil =>
    intro depth place
    exact Nat.le_refl _
  | cons token tokens ih =>
    intro depth place
    have further : ∀ depth, endFrom depth (place + 1) tokens ≤ place + (tokens.length + 1) := by
      intro depth
      have bound := ih depth (place + 1)
      omega
    simp only [endFrom, List.length_cons]
    split_ifs
    · exact further _
    · match depth with
      | 0 => exact Nat.le_add_right _ _
      | depth + 1 => exact further depth
    · exact Nat.le_add_right _ _
    · exact further _

theorem expressionStop_append (before after : List Token) :
    expressionStop (before ++ after) before.length = before.length + expressionLength after := by
  cases after with
  | nil => simp [expressionStop, expressionLength, endFrom]
  | cons token after =>
    have inside : before.length < (before ++ token :: after).length := by
      simp
    have place : before.length = before.length + 0 := rfl
    rw [expressionStop, if_pos inside, List.drop_left, expressionLength, ← endFrom_place]
    rfl

end Statement

namespace Checked

/-- A bracketed run: what stands between its brackets, and the place of the closing one. -/
structure Group where
  inner : List Token
  stop : Nat

def group (tokens : List Token) (mark : String) (place : Nat) : Checked (Option Group) := do
  let some opener := tokens[place]? | return none
  if opener.isMark mark then
    let some stop := Bracket.closerOf? tokens place | return none
    let inner ← slice tokens (place + 1) stop
    return some ⟨inner, stop⟩
  else return none

def openerBelow (tokens : List Token) (depth : Nat) : Nat → Checked (Option Nat)
  | 0 => .ok none
  | place + 1 => do
    let token ← get tokens place
    if token.closes then openerBelow tokens (depth + 1) place
    else if token.opens then
      match depth with
      | 0 => return none
      | 1 => return some place
      | depth + 2 => openerBelow tokens (depth + 1) place
    else openerBelow tokens depth place

def openerOf? (tokens : List Token) (stop : Nat) : Checked (Option Nat) :=
  openerBelow tokens 0 (stop + 1)

def endFrom (depth place : Nat) : List Token → Checked Nat
  | [] => .ok place
  | token :: tokens => do
    if token.opens then endFrom (depth + 1) (place + 1) tokens
    else if token.closes then
      if depth = 0 then return place
      else
        let depth ← sub depth 1
        endFrom depth (place + 1) tokens
    else if depth = 0 ∧ token.separates = true then return place
    else endFrom depth (place + 1) tokens

def expressionStop (tokens : List Token) (start : Nat) : Checked Nat :=
  if start < tokens.length then endFrom 0 start (tokens.drop start) else .ok tokens.length

/-- The rest of the statements of a run, for a statement that begins at `start` and is read up to
`place`. -/
def statementsFrom (tokens : List Token) (depth start place : Nat) (found : List (List Token)) :
    List Token → Checked (List (List Token))
  | [] => do
    if start < tokens.length then
      let piece ← slice tokens start tokens.length
      return (piece :: found).reverse
    else return found.reverse
  | token :: rest => do
    if token.opens then statementsFrom tokens (depth + 1) start (place + 1) found rest
    else if token.closes then statementsFrom tokens (depth - 1) start (place + 1) found rest
    else if depth = 0 ∧ token.separates = true then
      if start < place then
        let piece ← slice tokens start place
        statementsFrom tokens 0 (place + 1) (place + 1) (piece :: found) rest
      else statementsFrom tokens 0 (place + 1) (place + 1) found rest
    else statementsFrom tokens depth start (place + 1) found rest

def statements (tokens : List Token) : Checked (List (List Token)) :=
  statementsFrom tokens 0 0 0 [] tokens

theorem openerBelow_ok {tokens : List Token} (count : Nat) :
    ∀ depth, count ≤ tokens.length →
      openerBelow tokens depth count =
        .ok ((Bracket.pairAt Token.closes Token.opens depth 0 (tokens.take count).reverse).map
          (count - 1 - ·)) := by
  induction count with
  | zero =>
    intro depth _
    rfl
  | succ place ih =>
    intro depth bound
    have inside : place < tokens.length := bound
    have found : tokens[place]? = some tokens[place] := List.getElem?_eq_getElem inside
    have shape : (tokens.take (place + 1)).reverse =
        tokens[place] :: (tokens.take place).reverse := by
      rw [List.take_add_one, found, Option.toList_some, List.reverse_append]
      rfl
    have shift : ∀ depth, (Bracket.pairAt Token.closes Token.opens depth (0 + 1)
        (tokens.take place).reverse).map (place + 1 - 1 - ·) =
        (Bracket.pairAt Token.closes Token.opens depth 0 (tokens.take place).reverse).map
          (place - 1 - ·) := by
      intro depth
      have first : (0 : Nat) + 1 = 1 + 0 := rfl
      rw [first, Bracket.pairAt_place, Option.map_map]
      congr 1
      funext n
      simp only [Function.comp_apply]
      omega
    rw [shape]
    simp only [openerBelow, get_ok found, ok_bind, Bracket.pairAt]
    split_ifs
    · rw [shift, ih _ (Nat.le_of_lt inside)]
    · match depth with
      | 0 => rfl
      | 1 => rfl
      | depth + 2 =>
        show openerBelow tokens (depth + 1) place = _
        rw [shift, ih _ (Nat.le_of_lt inside)]
    · rw [shift, ih _ (Nat.le_of_lt inside)]

theorem openerOf?_ok {before rest : List Token} {closer : Token} :
    openerOf? (before.reverse ++ closer :: rest) before.length =
      .ok ((Bracket.openDistance? (closer :: before)).map (before.length - ·)) := by
  have bound : before.length + 1 ≤ (before.reverse ++ closer :: rest).length := by
    simp
  have run : ((before.reverse ++ closer :: rest).take (before.length + 1)).reverse =
      closer :: before := by
    have split := @List.take_length_add_append _ before.reverse (closer :: rest) 1
    rw [List.length_reverse] at split
    rw [split]
    simp
  rw [openerOf?, openerBelow_ok _ _ bound, run]
  rfl

theorem endFrom_ok (tokens : List Token) :
    ∀ depth place, endFrom depth place tokens = .ok (Statement.endFrom depth place tokens) := by
  induction tokens with
  | nil =>
    intro depth place
    rfl
  | cons token tokens ih =>
    intro depth place
    simp only [endFrom, Statement.endFrom]
    split_ifs with _ _ top
    · exact ih _ _
    · rw [top]
      rfl
    · obtain ⟨depth, rfl⟩ := Nat.exists_eq_succ_of_ne_zero top
      rw [@sub_ok (depth + 1) 1 depth rfl]
      exact ih _ _
    · rfl
    · exact ih _ _

theorem expressionStop_ok (tokens : List Token) (start : Nat) :
    expressionStop tokens start = .ok (Statement.expressionStop tokens start) := by
  rw [expressionStop, Statement.expressionStop, endFrom_ok]
  split_ifs <;> rfl

theorem statementsFrom_ok {tokens : List Token} (rest : List Token) :
    ∀ before piece depth found, tokens = before ++ piece ++ rest →
      statementsFrom tokens depth before.length (before.length + piece.length) found rest =
        .ok (found.reverse ++ (Statement.piecesFrom depth piece.reverse rest).filter
          fun piece => !piece.isEmpty) := by
  induction rest with
  | nil =>
    intro before piece depth found whole
    rw [List.append_nil] at whole
    rw [statementsFrom, Statement.piecesFrom, List.reverse_reverse]
    have total : tokens.length = before.length + piece.length := by
      rw [whole, List.length_append]
    cases piece with
    | nil =>
      rw [if_neg (by simp [total])]
      simp
    | cons token piece =>
      have last : slice tokens before.length tokens.length = .ok (token :: piece) :=
        slice_ok (whole.trans (List.append_nil _).symm) rfl total
      rw [if_pos (by simp [total]), last]
      simp
  | cons token rest ih =>
    intro before piece depth found whole
    have longer : ∀ depth, statementsFrom tokens depth before.length
        (before.length + piece.length + 1) found rest =
          .ok (found.reverse ++ (Statement.piecesFrom depth (token :: piece.reverse) rest).filter
            fun piece => !piece.isEmpty) := by
      intro depth
      have more := ih before (piece ++ [token]) depth found (by simp [whole])
      rwa [List.length_append, List.reverse_append] at more
    have next : ∀ found, statementsFrom tokens 0 (before.length + piece.length + 1)
        (before.length + piece.length + 1) found rest =
          .ok (found.reverse ++ (Statement.piecesFrom 0 [] rest).filter
            fun piece => !piece.isEmpty) := by
      intro found
      have more := ih (before ++ piece ++ [token]) [] 0 found (by simp [whole])
      rwa [List.length_append, List.length_append] at more
    simp only [statementsFrom, Statement.piecesFrom]
    split_ifs with _ _ _ some
    · exact longer _
    · exact longer _
    · have nonempty : piece.isEmpty = false := by
        cases piece with
        | nil => exact absurd some (Nat.lt_irrefl _)
        | cons => rfl
      rw [slice_ok whole rfl rfl, ok_bind, next, List.reverse_reverse]
      simp [nonempty]
    · have empty : piece = [] := by
        cases piece with
        | nil => rfl
        | cons => simp at some
      rw [next, empty]
      rfl
    · exact longer _

theorem statements_ok (tokens : List Token) :
    statements tokens = .ok (PlayerCipher.statements tokens) :=
  statementsFrom_ok tokens [] [] 0 [] rfl

theorem opens_of_isMark {token : Token} {mark : String} (opener : mark = "(" ∨ mark = "\x7b")
    (is : token.isMark mark = true) : token.opens = true := by
  rw [Token.isMark_iff] at is
  rcases opener with rfl | rfl <;> simp [Token.opens, is.1, is.2]

theorem group_ok {before rest : List Token} {mark : String}
    (opener : mark = "(" ∨ mark = "\x7b") :
    group (before ++ rest) mark before.length =
      .ok (match rest with
        | [] => none
        | token :: rest =>
          if token.isMark mark then
            (Bracket.cut? rest).map fun cut =>
              ⟨cut.inner, before.length + 1 + cut.inner.length⟩
          else none) := by
  unfold group
  cases rest with
  | nil => simp
  | cons token rest =>
    have found : (before ++ token :: rest)[before.length]? = some token := by
      simp
    rw [found]
    dsimp only
    split_ifs with is
    · rw [Bracket.closerOf?_append (opens_of_isMark opener is)]
      cases cut : Bracket.cut? rest with
      | none => rfl
      | some cut' =>
        have parts := Bracket.cut?_append cut
        have whole : before ++ token :: rest =
            (before ++ [token]) ++ cut'.inner ++ cut'.closer :: cut'.rest := by
          rw [← parts]
          simp
        have inner : slice (before ++ token :: rest) (before.length + 1)
            (before.length + 1 + cut'.inner.length) = .ok cut'.inner :=
          slice_ok whole (by simp) (by simp)
        simp only [Option.map_some, inner, ok_bind]
        rfl
    · rfl

end Checked

end PlayerCipher
