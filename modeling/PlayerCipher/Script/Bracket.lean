import PlayerCipher.Script.Token

/-! Bracket pairs in a token run.
The three kinds of brackets are counted together: a run may pair `(` with `]`. One scan
serves both directions, as looking for the opening bracket is looking for the closing one
in the reversed run. -/

namespace PlayerCipher

namespace Token

def opens (token : Token) : Bool :=
  token.kind == .punct && (token.text == "(" || token.text == "[" || token.text == "\x7b")

def closes (token : Token) : Bool :=
  token.kind == .punct && (token.text == ")" || token.text == "]" || token.text == "\x7d")

end Token

namespace Bracket

/-- Place of the first token that takes the depth back to zero, for a run that starts at
place `at` and depth `depth`; `none` if the depth would fall below zero, or stays. -/
def pairAt (up down : Token → Bool) (depth place : Nat) : List Token → Option Nat
  | [] => none
  | token :: tokens =>
    if up token then pairAt up down (depth + 1) (place + 1) tokens
    else if down token then
      match depth with
      | 0 => none
      | 1 => some place
      | depth + 2 => pairAt up down (depth + 1) (place + 1) tokens
    else pairAt up down depth (place + 1) tokens

/-- Number of tokens between an opening bracket and the one that closes it, for the run
after the opening bracket. -/
def inside? (tokens : List Token) : Option Nat :=
  pairAt Token.opens Token.closes 1 0 tokens

def closerOf? (tokens : List Token) (start : Nat) : Option Nat :=
  pairAt Token.opens Token.closes 0 start (tokens.drop start)

/-- Distance from the head of a reversed run to the bracket that opens the one at the head. -/
def openDistance? (reversed : List Token) : Option Nat :=
  pairAt Token.closes Token.opens 0 0 reversed

def openerOf? (tokens : List Token) (stop : Nat) : Option Nat :=
  (openDistance? (tokens.take (stop + 1)).reverse).map (stop - ·)

structure Cut where
  inner : List Token
  closer : Token
  rest : List Token

def cut? (tokens : List Token) : Option Cut :=
  match inside? tokens with
  | none => none
  | some n =>
    match tokens.drop n with
    | [] => none
    | closer :: rest => some ⟨tokens.take n, closer, rest⟩

theorem cut?_append {tokens : List Token} {cut : Cut} (found : cut? tokens = some cut) :
    cut.inner ++ cut.closer :: cut.rest = tokens := by
  unfold cut? at found
  split at found
  · simp at found
  · rename_i n _
    split at found
    · simp at found
    · rename_i closer rest dropped
      cases found
      simp [← dropped]

end Bracket

end PlayerCipher
