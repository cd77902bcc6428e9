import PlayerCipher.Url.Percent

/-! Form encoding of pairs of texts.
Pairs are joined with `&`, a pair with `=`. Letters and digits of ASCII and `*-._` stay, a
blank is written `+`, every other byte `%XX`. Reading drops empty pieces between `&`. -/

namespace PlayerCipher.Url.Form

open Text

abbrev Pair := List Char × List Char

def staysPlain (c : Char) : Bool :=
  c.isAlphanum || c == '*' || c == '-' || c == '.' || c == '_'

def encodeChar (c : Char) : List Char :=
  if staysPlain c then [c]
  else if c = ' ' then ['+']
  else (String.utf8EncodeChar c).flatMap percentByte

def encode (cs : List Char) : List Char :=
  cs.flatMap encodeChar

def decode (cs : List Char) : List Char :=
  decodeUtf8 (percentDecode (cs.map fun c => if c = '+' then ' ' else c))

/-- Reads `key=value`; a piece without `=` is a key with an empty value. -/
def readPair (piece : List Char) : Pair :=
  (decode (piece.takeWhile (· != '=')), decode ((piece.dropWhile (· != '=')).drop 1))

def read (query : List Char) : List Pair :=
  ((splitAt '&' query).filter fun piece => !piece.isEmpty).map readPair

def writePair (pair : Pair) : List Char :=
  encode pair.1 ++ '=' :: encode pair.2

def write : List Pair → List Char
  | [] => []
  | [pair] => writePair pair
  | pair :: pairs => writePair pair ++ '&' :: write pairs

end PlayerCipher.Url.Form
