import PlayerCipher.Text.Chars

/-! Text patterns with one captured run.
A pattern is a list of pieces. Each run piece takes the longest run of its characters, which
loses nothing as long as the piece after it cannot begin with such a character. A search
reports the leftmost place at which the pattern matches. -/

namespace PlayerCipher.Text

inductive Piece where
  | text (expected : String)
  /-- One of these texts, the first that is found. -/
  | oneOf (expected : List String)
  /-- The longest run of members, at least `least` of them. -/
  | run (isMember : Char → Bool) (least : Nat)
  /-- The same, and the run is the result of the match. -/
  | capture (isMember : Char → Bool) (least : Nat)

abbrev Pattern := List Piece

namespace Pattern

def blanks : Piece := .run isBlank 0

/-- Captured run of a match at the start of `cs`, with `captured` from the pieces before. -/
def matchFrom (captured : List Char) : Pattern → List Char → Option (List Char)
  | [], _ => some captured
  | .text expected :: pieces, cs =>
    match after? expected.toList cs with
    | some rest => matchFrom captured pieces rest
    | none => none
  | .oneOf expected :: pieces, cs =>
    match expected.findSome? fun text => after? text.toList cs with
    | some rest => matchFrom captured pieces rest
    | none => none
  | .run isMember least :: pieces, cs =>
    if least ≤ (cs.takeWhile isMember).length then
      matchFrom captured pieces (cs.dropWhile isMember)
    else none
  | .capture isMember least :: pieces, cs =>
    if least ≤ (cs.takeWhile isMember).length then
      matchFrom (cs.takeWhile isMember) pieces (cs.dropWhile isMember)
    else none

end Pattern

/-- The first result of `found?` over the suffixes of a text, the longest suffix first. -/
def firstSuffix? {α : Type} (found? : List Char → Option α) : List Char → Option α
  | [] => found? []
  | c :: cs =>
    match found? (c :: cs) with
    | some found => some found
    | none => firstSuffix? found? cs

namespace Pattern

def search? (pattern : Pattern) (cs : List Char) : Option (List Char) :=
  firstSuffix? (matchFrom [] pattern) cs

end Pattern

end PlayerCipher.Text
