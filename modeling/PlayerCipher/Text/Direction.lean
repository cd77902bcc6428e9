import PlayerCipher.Text.DirectionTable

/-! Writing directions.
A character is written from left to right or from right to left, or it goes along with its
neighbours. -/

namespace PlayerCipher.Text

inductive Direction where
  | leftToRight
  | rightToLeft
  | arabicDigit
  | europeanDigit
  | neutral
  | mark
  | control
deriving DecidableEq, Repr

namespace Direction

def ofCode : Nat → Direction
  | 1 => .rightToLeft
  | 2 => .arabicDigit
  | 3 => .europeanDigit
  | 4 => .neutral
  | 5 => .mark
  | 6 => .control
  | _ => .leftToRight

def of (c : Char) : Direction :=
  match DirectionTable.directions.find? (Table.covers c.toNat) with
  | some [_, _, code] => ofCode code
  | _ => .leftToRight

end Direction

end PlayerCipher.Text
