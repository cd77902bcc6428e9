/-! Decimal numerals.
An index is a natural number below `indexLimit`; a numeral that reaches it is refused,
never wrapped. -/

namespace PlayerCipher.Text

/-- Indexes are 64 bits wide. -/
def indexLimit : Nat := UInt64.size

def digitValue (c : Char) : Nat := c.toNat - '0'.toNat

def decimalValue (digits : List Char) : Nat :=
  digits.foldl (fun n c => 10 * n + digitValue c) 0

/-- A non-empty run of digits whose value is below `limit`. -/
def decimalBelow? (limit : Nat) (digits : List Char) : Option Nat :=
  if digits ≠ [] ∧ digits.all Char.isDigit = true ∧ decimalValue digits < limit then
    some (decimalValue digits)
  else none

def decimal (n : Nat) : String :=
  String.ofList (Nat.toDigits 10 n)

def padLeft (width : Nat) (text : String) : String :=
  String.ofList (List.replicate (width - text.length) ' ') ++ text

def padRight (width : Nat) (text : String) : String :=
  text ++ String.ofList (List.replicate (width - text.length) ' ')

def hexDigit (n : Nat) : Char :=
  "0123456789abcdef".toList.getD (n % 16) '0'

def hexDigitUpper (n : Nat) : Char :=
  "0123456789ABCDEF".toList.getD (n % 16) '0'

def hexValue? (c : Char) : Option Nat :=
  if c.isDigit then some (c.toNat - '0'.toNat)
  else if 'a' ≤ c ∧ c ≤ 'f' then some (c.toNat - 'a'.toNat + 10)
  else if 'A' ≤ c ∧ c ≤ 'F' then some (c.toNat - 'A'.toNat + 10)
  else none

end PlayerCipher.Text
