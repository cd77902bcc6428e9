import PlayerCipher.Text.Chars
import PlayerCipher.Text.Direction

/-! Writing directions of labels.
A name with letters written from right to left must not look like another one. So each label of
it, ASCII labels included, has the direction of its first letter, holds no letters of the other
direction and ends in a letter or a digit; only marks may follow these. A label from right to
left does not mix European with Arabic digits. -/

namespace PlayerCipher.Url.LabelDirection

open Text

def matters : Direction → Bool
  | .rightToLeft | .arabicDigit => true
  | _ => false

def fitsLeftToRight : Direction → Bool
  | .leftToRight | .europeanDigit | .neutral | .mark => true
  | _ => false

def endsLeftToRight : Direction → Bool
  | .leftToRight | .europeanDigit => true
  | _ => false

def fitsRightToLeft : Direction → Bool
  | .leftToRight | .control => false
  | _ => true

def endsRightToLeft : Direction → Bool
  | .rightToLeft | .europeanDigit | .arabicDigit => true
  | _ => false

def isUniform (directions : List Direction) : Bool :=
  let last := (directions.reverse.dropWhile (· == .mark)).head?
  match directions.head? with
  | none => true
  | some .leftToRight =>
    directions.all fitsLeftToRight && (last.map endsLeftToRight).getD true
  | some .rightToLeft =>
    directions.all fitsRightToLeft && (last.map endsRightToLeft).getD true &&
      !(directions.contains .europeanDigit && directions.contains .arabicDigit)
  | some _ => false

/-- Whether the labels of a name fit together. No character of ASCII makes the direction matter,
so a name of ASCII characters fits. -/
def fit (labels : List (List Char)) : Bool :=
  let directions := labels.map fun label => label.map Direction.of
  (labels.all fun label => label.all isAscii) ||
    !(directions.any fun label => label.any matters) || directions.all isUniform

end PlayerCipher.Url.LabelDirection
