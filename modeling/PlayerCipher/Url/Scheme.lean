/-! Kinds of schemes.
The schemes `http`, `https`, `ws`, `wss`, `ftp` and `file` are special: they need a host
(`file` apart) and take a backslash for a slash. -/

namespace PlayerCipher.Url

inductive SchemeType where
  | file
  | special
  | other
deriving DecidableEq, Repr

namespace SchemeType

def of (scheme : List Char) : SchemeType :=
  if scheme = "file".toList then .file
  else if ["http", "https", "ws", "wss", "ftp"].any fun name => name.toList = scheme then .special
  else .other

def isSpecial (type : SchemeType) : Bool :=
  type != .other

end SchemeType

def defaultPort (scheme : List Char) : Option Nat :=
  if scheme = "http".toList ∨ scheme = "ws".toList then some 80
  else if scheme = "https".toList ∨ scheme = "wss".toList then some 443
  else if scheme = "ftp".toList then some 21
  else none

def isSlash (type : SchemeType) (c : Char) : Bool :=
  c == '/' || (type.isSpecial && c == '\\')

def isAnySlash (c : Char) : Bool :=
  c == '/' || c == '\\'

def endsPath (c : Char) : Bool :=
  c == '?' || c == '#'

/-- Tabs and line breaks, which may stand anywhere in a written URL and mean nothing. -/
def isBreak (c : Char) : Bool :=
  c == '\t' || c == '\n' || c == '\r'

def withoutBreaks (cs : List Char) : List Char :=
  cs.filter (!isBreak ·)

/-- What follows the first `count` characters other than breaks. -/
def afterKept : (count : Nat) → List Char → List Char
  | 0, cs => cs
  | _ + 1, [] => []
  | count + 1, c :: cs => if isBreak c then afterKept (count + 1) cs else afterKept count cs

end PlayerCipher.Url
