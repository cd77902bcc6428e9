import PlayerCipher.Text.Numeral
import PlayerCipher.Text.Chars

/-! Internet addresses as hosts.
An IPv4 address is written with up to four numbers, in decimal, octal or hexadecimal; the last
number fills the bytes that are left. An IPv6 address has eight pieces of 16 bits; `::` stands
for one run of zero pieces, and the last two pieces may be an IPv4 address in plain decimal. -/

namespace PlayerCipher.Url

open Text

namespace Ipv4

def radix (digits : List Char) : Nat × List Char :=
  match digits with
  | '0' :: 'x' :: rest => (16, rest)
  | '0' :: 'X' :: rest => (16, rest)
  | '0' :: c :: rest => (8, c :: rest)
  | _ => (10, digits)

/-- Value of a number; `none` for a text that is none. No digits after the mark of a base
count as zero. -/
def number? (text : List Char) : Option Nat :=
  if text.isEmpty then none
  else
    let (base, digits) := radix text
    digits.foldl
      (fun value c =>
        match value, hexValue? c with
        | some n, some d => if d < base then some (base * n + d) else none
        | _, _ => none)
      (some 0)

def parts (text : List Char) : List (List Char) :=
  let all := splitAt '.' text
  if all.getLast? = some [] then all.dropLast else all

/-- Whether the host must be an IPv4 address: its last part is a number. -/
def endsInNumber (text : List Char) : Bool :=
  match (parts text).getLast? with
  | none => false
  | some last => (!last.isEmpty && last.all Char.isDigit) || (number? last).isSome

/-- Bytes of all numbers but the last, which fills the rest. -/
def combine (count : Nat) : List Nat → Option Nat
  | [] => none
  | [last] => if last < 256 ^ (5 - count) then some last else none
  | byte :: rest =>
    if byte < 256 then
      (combine count rest).map (byte * 256 ^ (4 + rest.length - count) + ·)
    else none

def parse? (text : List Char) : Option Nat := do
  let numbers ← (parts text).mapM number?
  if numbers.length ≤ 4 then combine numbers.length numbers else none

def render (address : Nat) : List Char :=
  (joinWith "." ([16777216, 65536, 256, 1].map fun unit =>
    decimal (address / unit % 256))).toList

end Ipv4

namespace Ipv6

/-- A decimal number below 256 without leading zeros. -/
def byte? (text : List Char) : Option Nat :=
  match text with
  | ['0'] => some 0
  | '0' :: _ => none
  | _ => decimalBelow? 256 text

def dotted? (text : List Char) : Option (List Nat) :=
  match (splitAt '.' text).mapM byte? with
  | some [a, b, c, d] => some [a * 256 + b, c * 256 + d]
  | _ => none

def piece? (text : List Char) : Option Nat :=
  if text.isEmpty || 4 < text.length then none
  else
    text.foldl
      (fun value c =>
        match value, hexValue? c with
        | some n, some d => some (16 * n + d)
        | _, _ => none)
      (some 0)

/-- Pieces between colons; the last may be dotted. -/
def pieces? : List (List Char) → Option (List Nat)
  | [] => some []
  | [last] => if last.contains '.' then dotted? last else (piece? last).map ([·])
  | text :: texts => do
    let piece ← piece? text
    let pieces ← pieces? texts
    some (piece :: pieces)

def side? (text : List Char) : Option (List Nat) :=
  if text.isEmpty then some [] else pieces? (splitAt ':' text)

def cutZeros? : List Char → Option (List Char × List Char)
  | ':' :: ':' :: rest => some ([], rest)
  | c :: cs => (cutZeros? cs).map fun (before, after) => (c :: before, after)
  | [] => none

def parse? (text : List Char) : Option (List Nat) :=
  match cutZeros? text with
  | none => do
    let pieces ← side? text
    if pieces.length = 8 then some pieces else none
  | some (before, after) => do
    let left ← if before.contains '.' then none else side? before
    let right ← side? after
    if left.length + right.length ≤ 7 then
      some (left ++ List.replicate (8 - left.length - right.length) 0 ++ right)
    else none

def zeros (pieces : List Nat) : Nat :=
  (pieces.takeWhile (· == 0)).length

def longestZeros (place : Nat) : List Nat → Nat × Nat
  | [] => (place, 0)
  | piece :: pieces =>
    let rest := longestZeros (place + 1) pieces
    let here := zeros (piece :: pieces)
    if rest.2 ≤ here then (place, here) else rest

def hexText (n : Nat) : String :=
  String.ofList (Nat.toDigits 16 n)

def render (pieces : List Nat) : List Char :=
  let (start, length) := longestZeros 0 pieces
  if length < 2 then (joinWith ":" (pieces.map hexText)).toList
  else
    (joinWith ":" ((pieces.take start).map hexText)).toList ++ "::".toList ++
      (joinWith ":" ((pieces.drop (start + length)).map hexText)).toList

end Ipv6

end PlayerCipher.Url
