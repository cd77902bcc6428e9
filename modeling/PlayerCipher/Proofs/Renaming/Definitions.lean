import Mathlib.Data.List.Basic
import PlayerCipher.Proofs.Renaming.Basic
import PlayerCipher.Script.Definition

/-! Brackets, statements and definitions under a relabelling.
Places and lengths stay as they are, since a relabelling touches neither marks nor the number of
tokens; runs, names and parameters are renamed. The definitions of a relabelled run are therefore
the relabelled definitions of the run. They come in the same order, as moved offsets compare
like the offsets before. -/

namespace PlayerCipher

namespace Relabelling

open PlayerCipher.Bracket Statement Definition Renaming

variable (σ : Relabelling)

theorem pairAt_tokens {up down : Token → Bool} (sameUp : ∀ token, up (σ.token token) = up token)
    (sameDown : ∀ token, down (σ.token token) = down token) (tokens : List Token) :
    ∀ depth place, pairAt up down depth place (σ.tokens tokens) =
      pairAt up down depth place tokens := by
  induction tokens with
  | nil =>
    intro depth place
    rfl
  | cons token tokens ih =>
    intro depth place
    simp only [tokens_cons, pairAt, sameUp, sameDown, ih]

@[simp] theorem inside?_tokens (tokens : List Token) :
    inside? (σ.tokens tokens) = inside? tokens :=
  σ.pairAt_tokens σ.opens_token σ.closes_token tokens 1 0

@[simp] theorem openDistance?_tokens (tokens : List Token) :
    openDistance? (σ.tokens tokens) = openDistance? tokens :=
  σ.pairAt_tokens σ.closes_token σ.opens_token tokens 0 0

def cut (cut : Cut) : Cut :=
  ⟨σ.tokens cut.inner, σ.token cut.closer, σ.tokens cut.rest⟩

theorem cut?_tokens (tokens : List Token) :
    cut? (σ.tokens tokens) = (cut? tokens).map σ.cut := by
  unfold cut?
  rw [inside?_tokens]
  cases inside? tokens with
  | none => rfl
  | some n =>
    simp only [tokens_drop, tokens_take]
    cases tokens.drop n with
    | nil => rfl
    | cons closer rest => rfl

theorem piecesFrom_tokens (tokens : List Token) :
    ∀ depth piece, piecesFrom depth (σ.tokens piece) (σ.tokens tokens) =
      (piecesFrom depth piece tokens).map σ.tokens := by
  induction tokens with
  | nil =>
    intro depth piece
    simp [piecesFrom, tokens_reverse]
  | cons token tokens ih =>
    intro depth piece
    simp only [tokens_cons, piecesFrom, opens_token, closes_token, separates_token,
      tokens_reverse]
    rw [← tokens_cons]
    have fresh := ih 0 []
    rw [tokens_nil] at fresh
    split
    · exact ih _ _
    · split
      · exact ih _ _
      · split
        · rw [fresh, List.map_cons]
        · exact ih _ _

theorem isEmpty_tokens (tokens : List Token) : (σ.tokens tokens).isEmpty = tokens.isEmpty :=
  List.isEmpty_map

theorem statements_tokens (tokens : List Token) :
    statements (σ.tokens tokens) = (statements tokens).map σ.tokens := by
  have pieces : pieces (σ.tokens tokens) = (pieces tokens).map σ.tokens :=
    σ.piecesFrom_tokens tokens 0 []
  simp only [statements, pieces, List.filter_map]
  congr 1
  apply List.filter_congr
  intro piece _
  simp [isEmpty_tokens]

theorem endFrom_tokens (tokens : List Token) :
    ∀ depth place, endFrom depth place (σ.tokens tokens) = endFrom depth place tokens := by
  induction tokens with
  | nil =>
    intro depth place
    rfl
  | cons token tokens ih =>
    intro depth place
    simp only [tokens_cons, endFrom, opens_token, closes_token, separates_token, ih]

@[simp] theorem expressionLength_tokens (tokens : List Token) :
    expressionLength (σ.tokens tokens) = expressionLength tokens :=
  σ.endFrom_tokens tokens 0 0

theorem parameters?_tokens (tokens : List Token) :
    parameters? (σ.tokens tokens) = (parameters? tokens).map (List.map σ.map) := by
  fun_induction parameters? tokens with
  | case1 => rfl
  | case2 token identifier =>
    simp [parameters?, identifier, σ.token_text_identifier identifier]
  | case3 token identifier comma tokens isComma ih =>
    simp only [tokens_cons, parameters?, isIdentifier_token, identifier, isMark_token, isComma,
      if_true, ih, Option.map_map]
    congr 1
    funext params
    simp [σ.token_text_identifier identifier]
  | case4 token identifier comma tokens isComma =>
    simp [parameters?, identifier, isComma]
  | case5 token tokens identifier =>
    rw [parameters?.eq_def]
    simp [identifier]

theorem nameBefore?_tokens (before : List Token) :
    nameBefore? (σ.tokens before) = (nameBefore? before).map σ.map := by
  match before with
  | [] => rfl
  | [op] => rfl
  | op :: target :: rest =>
    simp only [tokens_cons, nameBefore?, isMark_token, token_kind, isIdentifier_token,
      contents?_token]
    split
    · split
      · split
        · rename_i identifier
          simp [σ.token_text_identifier identifier]
        · rfl
      · rfl
      · rfl
    · rfl

theorem map_async : σ.map "async" = "async" :=
  σ.keeps "async" (by simp)

theorem withAsync_tokens (first : Token) (before : List Token) :
    withAsync (σ.token first) (σ.tokens before) =
      (σ.token (withAsync first before).1, σ.tokens (withAsync first before).2) := by
  cases before with
  | nil => rfl
  | cons word before =>
    simp only [tokens_cons, withAsync, σ.spells_token σ.map_async]
    split <;> rfl

theorem braced?_tokens (tokens : List Token) :
    braced? (σ.tokens tokens) =
      (braced? tokens).map (Prod.map σ.tokens σ.tokens) := by
  cases tokens with
  | nil => rfl
  | cons opener tokens =>
    simp only [tokens_cons, braced?, isMark_token, cut?_tokens]
    split
    · cases cut? tokens with
      | none => rfl
      | some head =>
        cases shape : head.rest with
        | nil => simp [Relabelling.cut, shape]
        | cons brace rest =>
          simp only [Option.map_some, Option.bind_eq_bind, Option.bind_some, Relabelling.cut, shape,
            tokens_cons, isMark_token, cut?_tokens]
          split
          · cases cut? rest <;> rfl
          · rfl
    · rfl

def definition (definition : Definition) : Definition where
  name := definition.name.map σ.map
  params := definition.params.map σ.map
  body := σ.tokens definition.body
  bodyStart := definition.bodyStart
  offset := σ.move definition.offset

theorem afterStar_tokens (after : List Token) :
    afterStar (σ.tokens after) = Prod.map id σ.tokens (afterStar after) := by
  cases after with
  | nil => rfl
  | cons star rest =>
    simp only [tokens_cons, afterStar, isMark_token]
    split <;> rfl

theorem keywordName_tokens (before after : List Token) :
    keywordName (σ.tokens before) (σ.tokens after) =
      Prod.map (Option.map σ.map) (Prod.map id σ.tokens) (keywordName before after) := by
  cases after with
  | nil => rfl
  | cons ident rest =>
    simp only [tokens_cons, keywordName, isIdentifier_token, nameBefore?_tokens]
    split
    · rename_i identifier
      simp [σ.token_text_identifier identifier]
    · rfl

theorem ofKeyword?_tokens (before : List Token) (place : Nat) (word : Token)
    (after : List Token) :
    ofKeyword? (σ.tokens before) place (σ.token word) (σ.tokens after) =
      (ofKeyword? before place word after).map σ.definition := by
  unfold ofKeyword?
  simp only [withAsync_tokens, afterStar_tokens, Prod.map, keywordName_tokens, braced?_tokens]
  cases braced? (keywordName (withAsync word before).2 (afterStar after).2).2.2 with
  | none => rfl
  | some parts =>
    obtain ⟨head, body⟩ := parts
    simp only [Option.map_some, Prod.map, Option.bind_eq_bind, Option.bind_some,
      parameters?_tokens, tokens_length]
    cases parameters? head <;> simp [definition]

theorem arrowHead?_tokens (before : List Token) :
    arrowHead? (σ.tokens before) =
      (arrowHead? before).map (Prod.map (List.map σ.map) (Prod.map σ.token σ.tokens)) := by
  cases before with
  | nil => rfl
  | cons last before =>
    simp only [tokens_cons, arrowHead?, isMark_token, isIdentifier_token]
    rw [← tokens_cons, openDistance?_tokens]
    split
    · cases openDistance? (last :: before) with
      | none => rfl
      | some distance =>
        simp only [Option.bind_eq_bind, Option.bind_some, tokens_take, tokens_drop,
          tokens_reverse, parameters?_tokens]
        cases parameters? (before.take (distance - 1)).reverse with
        | none => rfl
        | some params =>
          simp only [Option.map_some, Option.bind_some]
          cases before.drop (distance - 1) <;> rfl
    · split
      · rename_i identifier
        simp [σ.token_text_identifier identifier]
      · rfl

theorem ofArrow?_tokens (before : List Token) (place : Nat) (after : List Token) :
    ofArrow? (σ.tokens before) place (σ.tokens after) =
      (ofArrow? before place after).map σ.definition := by
  unfold ofArrow?
  rw [arrowHead?_tokens]
  cases arrowHead? before with
  | none => rfl
  | some head =>
    obtain ⟨params, opener, rest⟩ := head
    simp only [Option.map_some, Prod.map, Option.bind_eq_bind, Option.bind_some,
      withAsync_tokens, nameBefore?_tokens]
    cases after with
    | nil => rfl
    | cons token tokens =>
      simp only [tokens_cons, isMark_token, cut?_tokens]
      split
      · cases cut? tokens <;> simp [definition, Relabelling.cut]
      · rw [← tokens_cons, expressionLength_tokens, tokens_take]
        simp [definition]

theorem statementWords_reserved : ∀ word ∈ statementWords, word ∈ Token.reservedWords := by
  decide

@[simp] theorem map_mem_statementWords (text : String) :
    σ.map text ∈ statementWords ↔ text ∈ statementWords :=
  σ.map_mem fun word member => σ.map_reserved (statementWords_reserved word member)

theorem shorthandParts?_tokens (before : List Token) (name : Token) (after : List Token) :
    shorthandParts? (σ.tokens before) (σ.token name) (σ.tokens after) =
      (shorthandParts? before name after).map (Prod.map σ.tokens σ.tokens) := by
  unfold shorthandParts?
  rw [token_kind]
  by_cases ident : name.kind = .ident
  · simp only [σ.token_text_ident ident, map_mem_statementWords]
    split
    · cases before with
      | nil => rfl
      | cons last before =>
        simp only [tokens_cons, isMark_token, braced?_tokens]
        split <;> rfl
    · rfl
  · simp [ident]

theorem shorthandParts?_kind {before : List Token} {name : Token} {after : List Token}
    {parts : List Token × List Token} (found : shorthandParts? before name after = some parts) :
    name.kind = .ident := by
  unfold shorthandParts? at found
  split at found
  · rename_i named
    exact named.1
  · cases found

theorem ofShorthand?_tokens (before : List Token) (place : Nat) (name : Token)
    (after : List Token) :
    ofShorthand? (σ.tokens before) place (σ.token name) (σ.tokens after) =
      (ofShorthand? before place name after).map σ.definition := by
  unfold ofShorthand?
  rw [shorthandParts?_tokens]
  cases found : shorthandParts? before name after with
  | none => rfl
  | some parts =>
    have ident := shorthandParts?_kind found
    obtain ⟨head, body⟩ := parts
    simp only [Option.map_some, Prod.map, Option.bind_eq_bind, Option.bind_some,
      parameters?_tokens, tokens_length]
    cases parameters? head <;> simp [definition, σ.token_text_ident ident]

theorem map_function : σ.map "function" = "function" :=
  σ.map_reserved (by decide)

theorem at?_tokens (before : List Token) (place : Nat) (token : Token) (after : List Token) :
    Definition.at? (σ.tokens before) place (σ.token token) (σ.tokens after) =
      (Definition.at? before place token after).map σ.definition := by
  unfold Definition.at?
  rw [σ.spells_token σ.map_function, isMark_token]
  split
  · exact σ.ofKeyword?_tokens before place token after
  · split
    · exact σ.ofArrow?_tokens before place after
    · exact σ.ofShorthand?_tokens before place token after

theorem scan_tokens (tokens : List Token) :
    ∀ found before place, Definition.scan (found.map σ.definition) (σ.tokens before) place
        (σ.tokens tokens) =
      (Definition.scan found before place tokens).map σ.definition := by
  induction tokens with
  | nil =>
    intro found before place
    simp [Definition.scan]
  | cons token tokens ih =>
    intro found before place
    simp only [tokens_cons, Definition.scan, at?_tokens]
    rw [← tokens_cons, ← ih]
    cases Definition.at? before place token tokens <;> rfl

theorem definitions_tokens (tokens : List Token) :
    definitions (σ.tokens tokens) = (definitions tokens).map σ.definition := by
  have scanned := σ.scan_tokens tokens [] [] 0
  rw [List.map_nil, tokens_nil] at scanned
  unfold definitions
  rw [scanned, List.map_mergeSort]
  intro f _ g _
  simp [definition, σ.move_strictMono.le_iff_le]

end Relabelling

namespace Renaming

variable (ρ : Renaming)

theorem definitions_tokens (tokens : List Token) :
    definitions (ρ.tokens tokens) = (definitions tokens).map ρ.inPlace.definition := by
  rw [← inPlace_tokens, Relabelling.definitions_tokens]

end Renaming

end PlayerCipher
