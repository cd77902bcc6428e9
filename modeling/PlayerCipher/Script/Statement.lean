import PlayerCipher.Script.Bracket

/-! Statements of a token run.
A separator is a `;` or `,` outside all brackets. The statements of a run are the non-empty
pieces between its separators; an expression ends at the first separator or at a closing
bracket that it did not open. -/

namespace PlayerCipher

namespace Token

def separates (token : Token) : Bool :=
  token.isMark ";" || token.isMark ","

end Token

namespace Statement

/-- Pieces of a run between its separators, for a run inside `depth` brackets that follows
the unfinished piece `piece` (nearest token first). A closing bracket without partner
leaves the depth at zero. -/
def piecesFrom (depth : Nat) (piece : List Token) : List Token → List (List Token)
  | [] => [piece.reverse]
  | token :: tokens =>
    if token.opens then piecesFrom (depth + 1) (token :: piece) tokens
    else if token.closes then piecesFrom (depth - 1) (token :: piece) tokens
    else if depth = 0 ∧ token.separates = true then piece.reverse :: piecesFrom 0 [] tokens
    else piecesFrom depth (token :: piece) tokens

def pieces (tokens : List Token) : List (List Token) :=
  piecesFrom 0 [] tokens

def endFrom (depth place : Nat) : List Token → Nat
  | [] => place
  | token :: tokens =>
    if token.opens then endFrom (depth + 1) (place + 1) tokens
    else if token.closes then
      match depth with
      | 0 => place
      | depth + 1 => endFrom depth (place + 1) tokens
    else if depth = 0 ∧ token.separates = true then place
    else endFrom depth (place + 1) tokens

def expressionLength (tokens : List Token) : Nat :=
  endFrom 0 0 tokens

def expressionStop (tokens : List Token) (start : Nat) : Nat :=
  if start < tokens.length then endFrom 0 start (tokens.drop start) else tokens.length

end Statement

def statements (tokens : List Token) : List (List Token) :=
  (Statement.pieces tokens).filter fun piece => !piece.isEmpty

end PlayerCipher
