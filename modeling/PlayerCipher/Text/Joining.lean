import PlayerCipher.Text.Direction
import PlayerCipher.Text.JoiningTable

/-! Joining of letters.
In a cursive script a letter joins the next character, the one before, or both. Marks do not
come between two letters that join. -/

namespace PlayerCipher.Text

def joiningCode (c : Char) : Nat :=
  match JoiningTable.joinings.find? (Table.covers c.toNat) with
  | some [_, _, code] => code
  | _ => 0

def joinsNext (c : Char) : Bool :=
  joiningCode c == 1 || joiningCode c == 2

def joinsPrevious (c : Char) : Bool :=
  joiningCode c == 1 || joiningCode c == 3

/-- Whether the neighbours of the character may join each other. -/
def isTransparent (c : Char) : Bool :=
  joiningCode c == 4 || Direction.of c == .mark

end PlayerCipher.Text
