import PlayerCipher.Text.Numeral

/-! Tables of numbers in text form.
A table is a text of hexadecimal numbers. A comma ends a row, and blanks and line ends stand
between the numbers of a row. -/

namespace PlayerCipher.Text.Table

/-- Rows read so far, the last one first, the numbers of the present row, the last one first,
and the number that is being read. -/
structure Reading where
  rows : List (List Nat)
  row : List Nat
  number : Option Nat

namespace Reading

def endNumber (reading : Reading) : Reading :=
  match reading.number with
  | some n => { reading with row := n :: reading.row, number := none }
  | none => reading

def endRow (reading : Reading) : Reading :=
  let reading := reading.endNumber
  { reading with rows := reading.row.reverse :: reading.rows, row := [] }

def step (reading : Reading) (c : Char) : Reading :=
  match hexValue? c with
  | some digit => { reading with number := some (16 * reading.number.getD 0 + digit) }
  | none => if c = ',' then reading.endRow else reading.endNumber

end Reading

def rows (text : String) : List (List Nat) :=
  (text.foldl Reading.step ⟨[], [], none⟩).endRow.rows.reverse

def covers (n : Nat) : List Nat → Bool
  | first :: last :: _ => first ≤ n && n ≤ last
  | _ => false

end PlayerCipher.Text.Table
