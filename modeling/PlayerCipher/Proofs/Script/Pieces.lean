import Mathlib.Data.List.Basic
import PlayerCipher.Proofs.Script.Balance
import PlayerCipher.Script.Statement

/-! Pieces of a token run between its top-level separators.
The scan for statements counts open brackets and keeps an unfinished piece. Seen from outside,
each token of the run has a level, the number of brackets that are open before it, and the
pieces are what the separators at level zero leave between them. -/

namespace PlayerCipher.Statement

/-- Number of open brackets behind a token that stands inside `depth` of them. A closing
bracket without partner closes nothing. -/
def levelAfter (depth : Nat) (token : Token) : Nat :=
  if token.opens then depth + 1 else if token.closes then depth - 1 else depth

def level (tokens : List Token) : Nat :=
  tokens.foldl levelAfter 0

/-- The tokens of a run, each with whether it is a `;` or `,` outside all brackets. -/
def marked (tokens : List Token) : List (Token × Bool) :=
  tokens.mapIdx fun place token => (token, token.separates && level (tokens.take place) == 0)

theorem separates_of_bracket {token : Token}
    (bracket : token.opens = true ∨ token.closes = true) : token.separates = false := by
  simp only [Token.opens, Token.closes, Bool.and_eq_true, Bool.or_eq_true, beq_iff_eq,
    ← and_or_left] at bracket
  obtain ⟨-, ((text | text) | text) | ((text | text) | text)⟩ := bracket <;>
    simp [Token.separates, Token.isMark, text]

def markedFrom (depth : Nat) : List Token → List (Token × Bool)
  | [] => []
  | token :: tokens =>
    (token, token.separates && depth == 0) :: markedFrom (levelAfter depth token) tokens

theorem markedFrom_eq (tokens : List Token) :
    ∀ depth, markedFrom depth tokens = tokens.mapIdx fun place token =>
      (token, token.separates && (tokens.take place).foldl levelAfter depth == 0) := by
  induction tokens with
  | nil =>
    intro depth
    rfl
  | cons token tokens ih =>
    intro depth
    rw [markedFrom, ih, List.mapIdx_cons]
    rfl

theorem piecesFrom_eq_splitOnP (tokens : List Token) :
    ∀ depth piece, piecesFrom depth piece tokens =
      (List.splitOnPPrepend Prod.snd (markedFrom depth tokens)
        (piece.map fun token => (token, false))).map (List.map Prod.fst) := by
  have finished (piece : List Token) :
      (piece.map fun token => (token, false)).reverse.map Prod.fst = piece.reverse := by
    rw [← List.map_reverse, List.map_map]
    exact List.map_id _
  induction tokens with
  | nil =>
    intro depth piece
    simp only [piecesFrom, markedFrom, List.splitOnPPrepend_nil, List.map_singleton, finished]
  | cons token tokens ih =>
    intro depth piece
    rw [piecesFrom, markedFrom, List.splitOnPPrepend_cons_eq_if]
    by_cases opens : token.opens = true
    · simp only [opens, separates_of_bracket (.inl opens), levelAfter, if_true, Bool.false_and,
        Bool.false_eq_true, if_false, ih, List.map_cons]
    by_cases closes : token.closes = true
    · simp only [opens, closes, separates_of_bracket (.inr closes), levelAfter, if_true,
        Bool.false_and, Bool.false_eq_true, if_false, ih, List.map_cons]
    simp only [opens, closes, levelAfter, Bool.false_eq_true, if_false]
    by_cases cut : depth = 0 ∧ token.separates = true
    · obtain ⟨rfl, separates⟩ := cut
      have fresh := ih 0 []
      rw [List.map_nil, ← List.splitOnP_eq_splitOnPPrepend] at fresh
      simp only [separates, and_self, if_true, Bool.true_and, beq_self_eq_true, List.map_cons,
        finished, fresh]
    · have plain : (token.separates && depth == 0) = false := by
        rw [Bool.and_eq_false_iff, beq_eq_false_iff_ne]
        by_contra both
        simp only [not_or, Bool.not_eq_false, not_not] at both
        exact cut ⟨both.2, both.1⟩
      simp only [cut, plain, Bool.false_eq_true, if_false, ih, List.map_cons]

theorem statements_eq_splitOnP (tokens : List Token) :
    statements tokens =
      (((marked tokens).splitOnP Prod.snd).map (List.map Prod.fst)).filter
        fun piece => !piece.isEmpty := by
  rw [statements, pieces, piecesFrom_eq_splitOnP, markedFrom_eq, marked,
    List.splitOnP_eq_splitOnPPrepend]
  rfl

end PlayerCipher.Statement
