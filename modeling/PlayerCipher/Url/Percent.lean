import PlayerCipher.Text.Numeral
import PlayerCipher.Text.Utf8
import PlayerCipher.Text.Chars

/-! Percent encoding.
Each part of a URL has a set of ASCII characters that are written as `%XX`; characters
beyond ASCII are written so everywhere, byte by byte. Decoding turns `%XX` into a byte and
leaves a `%` without two hexadecimal digits as it is. -/

namespace PlayerCipher.Url

open Text

def percentByte (byte : UInt8) : List Char :=
  ['%', hexDigitUpper (byte.toNat / 16), hexDigitUpper byte.toNat]

def controlSet (c : Char) : Bool :=
  c.toNat < 0x20 || c == '\x7f'

def fragmentSet (c : Char) : Bool :=
  controlSet c || " \"<>\x60".toList.contains c

def pathSet (c : Char) : Bool :=
  fragmentSet c || "#?\x7b\x7d".toList.contains c

def userinfoSet (c : Char) : Bool :=
  pathSet c || "/:;=@[\\]^|".toList.contains c

def querySet (c : Char) : Bool :=
  controlSet c || " \"#<>".toList.contains c

/-- In the query of a special URL the apostrophe is encoded as well. -/
def specialQuerySet (c : Char) : Bool :=
  querySet c || c == '\''

/-- A character, encoded if it is in the set or beyond ASCII. -/
def percentChar (set : Char → Bool) (c : Char) : List Char :=
  if set c || !isAscii c then (String.utf8EncodeChar c).flatMap percentByte else [c]

def percentEncode (set : Char → Bool) (cs : List Char) : List Char :=
  cs.flatMap (percentChar set)

def percentDecode : List Char → List UInt8
  | [] => []
  | '%' :: high :: low :: cs =>
    match hexValue? high, hexValue? low with
    | some h, some l => (16 * h + l).toUInt8 :: percentDecode cs
    | _, _ => String.utf8EncodeChar '%' ++ percentDecode (high :: low :: cs)
  | c :: cs => String.utf8EncodeChar c ++ percentDecode cs

end PlayerCipher.Url
