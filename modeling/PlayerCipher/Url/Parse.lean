import PlayerCipher.Url.Basic
import PlayerCipher.Url.Domain
import PlayerCipher.Url.OpenPath

/-! Reading URLs.
A text is read from left to right: scheme, host, path, query, fragment. A special scheme reads
the host as a domain name. A text without a scheme is relative to a base. Breaks are dropped
from the text, but a file path looks at them once more. -/

namespace PlayerCipher.Url

open Text

/-- The text without control characters and blanks at its ends. -/
def withoutMargins (cs : List Char) : List Char :=
  let isMargin := fun c : Char => decide (c.toNat ≤ 0x20)
  ((cs.dropWhile isMargin).reverse.dropWhile isMargin).reverse

def isSchemeChar (c : Char) : Bool :=
  c.isAlphanum || c == '+' || c == '-' || c == '.'

def scheme? (cs : List Char) : Option (List Char) :=
  match cs with
  | [] => none
  | first :: _ =>
    if first.isAlpha ∧ (cs.dropWhile isSchemeChar).head? = some ':' then
      some (lower (cs.takeWhile isSchemeChar))
    else none

/-! ### Query and fragment -/

def readFragment (cs : List Char) : Option (List Char) :=
  match cs with
  | '#' :: rest => some (percentEncode fragmentSet rest)
  | _ => none

def readQuery (type : SchemeType) (cs : List Char) : Option (List Char) × Option (List Char) :=
  match cs with
  | '?' :: rest =>
    let set := if type.isSpecial then specialQuerySet else querySet
    (some (percentEncode set (rest.takeWhile (· != '#'))),
      readFragment (rest.dropWhile (· != '#')))
  | _ => (none, readFragment cs)

/-! ### Path -/

def readPath (type : SchemeType) (segments : List (List Char)) (cs : List Char) :
    List (List Char) :=
  ((OpenPath.below segments).extend type cs).finish type

/-- Path after a host. A special URL has at least the root; elsewhere it may be empty. -/
def readPathStart (type : SchemeType) (cs : List Char) : List (List Char) :=
  match cs with
  | c :: rest =>
    if isSlash type c then readPath type [] rest
    else if type.isSpecial || !endsPath c then readPath type [] cs
    else []
  | [] => if type.isSpecial then [[]] else []

/-! ### Host -/

def isForbiddenInHost (c : Char) : Bool :=
  c == '\x00' || "\t\n\r #/:<>?@[\\]^|".toList.contains c

def readIpv6 (cs : List Char) : Except UrlError Host :=
  if cs.getLast? = some ']' then
    match Ipv6.parse? (cs.drop 1).dropLast with
    | some pieces => .ok (.ipv6 pieces)
    | none => .error .invalidIpv6
  else .error .invalidIpv6

def readDomain (cs : List Char) : Except UrlError Host :=
  if cs.head? = some '[' then readIpv6 cs
  else
    match Domain.toAscii? (decodeUtf8 (percentDecode cs)) with
    | none => .error .invalidDomain
    | some [] => .error .emptyHost
    | some domain =>
      if Ipv4.endsInNumber domain then
        match Ipv4.parse? domain with
        | some address => .ok (.ipv4 address)
        | none => .error .invalidIpv4
      else .ok (.name domain)

def readPlainHost (cs : List Char) : Except UrlError Host :=
  if cs.head? = some '[' then readIpv6 cs
  else if cs.any isForbiddenInHost then .error .invalidHostCharacter
  else .ok (.name (percentEncode controlSet cs))

def hostLength (inBrackets : Bool) : List Char → Nat
  | [] => 0
  | c :: cs =>
    if c = ':' ∧ inBrackets = false then 0
    else hostLength (if c = '[' then true else if c = ']' then false else inBrackets) cs + 1

/-- Port after a colon, and what follows it. Without digits it is the default. -/
def readPort (scheme cs : List Char) : Except UrlError (Option Nat × List Char) :=
  let digits := cs.takeWhile Char.isDigit
  let rest := cs.dropWhile Char.isDigit
  if 65535 < decimalValue digits then .error .invalidPort
  else if rest.head? ≠ none ∧ rest.head? ≠ some '\\' then .error .invalidPort
  else if digits.isEmpty ∨ defaultPort scheme = some (decimalValue digits) then .ok (none, rest)
  else .ok (some (decimalValue digits), rest)

def readHostPort (scheme cs : List Char) : Except UrlError (Host × Option Nat × List Char) := do
  let type := SchemeType.of scheme
  let name := cs.take (hostLength false cs)
  let rest := cs.drop (hostLength false cs)
  if type.isSpecial ∧ name = [] then throw .emptyHost
  let host ← if type.isSpecial then readDomain name else readPlainHost name
  match rest with
  | [] => return (host, none, [])
  | _ :: cs =>
    if host = .name [] then throw .emptyHost
    let (port, rest) ← readPort scheme cs
    return (host, port, rest)

def splitCredentials? (cs : List Char) : Option (List Char × List Char) :=
  let reversed := cs.reverse
  match reversed.dropWhile (· != '@') with
  | [] => none
  | _ :: before => some (before.reverse, (reversed.takeWhile (· != '@')).reverse)

def readAuthority (scheme cs : List Char) : Except UrlError Url := do
  let type := SchemeType.of scheme
  let isEnd := fun c => isSlash type c || endsPath c
  let area := cs.takeWhile (!isEnd ·)
  let rest := cs.dropWhile (!isEnd ·)
  let (before, hostArea) := (splitCredentials? area).getD ([], area)
  if (splitCredentials? area).isSome ∧ before = [] ∧ hostArea = [] ∧ rest ≠ [] then
    throw .emptyHost
  let username := percentEncode userinfoSet (before.takeWhile (· != ':'))
  let password := percentEncode userinfoSet ((before.dropWhile (· != ':')).drop 1)
  let (host, port, after) ← readHostPort scheme hostArea
  if host = .name [] ∧ (username ≠ [] ∨ password ≠ []) then throw .emptyHost
  let tail := after ++ rest
  let (query, fragment) := readQuery type (tail.dropWhile (!endsPath ·))
  let path := Path.segments (readPathStart type tail)
  return { scheme, username, password, host := some host, port, path, query, fragment }

/-! ### Relative texts -/

/-- The base with the path, query and fragment that a text gives after `path`. -/
def continueFrom (base : Url) (path : OpenPath) (cs : List Char) : Url :=
  let type := SchemeType.of base.scheme
  let (query, fragment) := readQuery type (withoutBreaks (cs.dropWhile (!endsPath ·)))
  { base with path := .segments ((path.extend type cs).finish type), query, fragment }

def baseSegments (base : Url) : List (List Char) :=
  match base.path with
  | .segments segments => segments
  | .plain _ => []

/-- A text without scheme, or with that of its base, for a base that is no file. -/
def readRelative (base : Url) (cs : List Char) : Except UrlError Url :=
  let type := SchemeType.of base.scheme
  match cs with
  | [] => .ok { base with fragment := none }
  | '?' :: _ =>
    let (query, fragment) := readQuery type cs
    .ok { base with query, fragment }
  | '#' :: _ => .ok { base with fragment := readFragment cs }
  | c :: rest =>
    if isAnySlash c then
      if (rest.head?.map isAnySlash).getD false then
        if c = '/' ∧ rest.head? = some '/' then readAuthority base.scheme (rest.drop 1)
        else readAuthority base.scheme (rest.dropWhile isAnySlash)
      else .ok (continueFrom base .root rest)
    else .ok (continueFrom base (.beside type (baseSegments base)) cs)

/-! ### Files -/

/-- A file with this host, and the path that a text gives after `path`. A drive letter at the
start of the path takes the place of the host. -/
def fileUrl (host : Host) (path : OpenPath) (cs : List Char) : Url :=
  let (query, fragment) := readQuery .file (withoutBreaks (cs.dropWhile (!endsPath ·)))
  let path := path.extend .file cs
  { scheme := "file".toList, username := [], password := []
    host := some (if path.onDrive then .name [] else host), port := none
    path := .segments (path.finish .file), query, fragment }

/-- A file after `//`. Without a host, the slash before the path is a segment of its own. -/
def readFileHost (cs : List Char) : Except UrlError Url := do
  let isEnd := fun c => isAnySlash c || endsPath c
  let name := withoutBreaks (cs.takeWhile (!isEnd ·))
  let rest := cs.dropWhile (!isEnd ·)
  let path := if (rest.head?.map isAnySlash).getD false then rest.drop 1 else rest
  if isDriveLetter name then return fileUrl (.name []) .root cs
  if name = [] then return fileUrl (.name []) (.below [[]]) path
  let host ← readDomain name
  if host = .name "localhost".toList then return fileUrl (.name []) (.below [[]]) path
  return fileUrl host .root path

def readFileRoot (base : Option Url) (cs : List Char) : Url :=
  let ownHost := (base.bind (·.host)).getD (.name [])
  let ownDrive := (base.bind fun base => (baseSegments base).head?).filter isNormalDriveLetter
  if startsWithDriveLetter (withoutBreaks cs) then fileUrl (.name []) .root cs
  else
    match ownDrive with
    | some drive => fileUrl (.name []) (.below [drive]) cs
    | none => { fileUrl ownHost .root cs with host := some ownHost }

def readFile (base : Option Url) (cs : List Char) : Except UrlError Url :=
  let kept := withoutBreaks cs
  match kept with
  | c :: rest =>
    if isAnySlash c then
      if (rest.head?.map isAnySlash).getD false then readFileHost (afterKept 2 cs)
      else .ok (readFileRoot base (afterKept 1 cs))
    else
      match base with
      | none => .ok (fileUrl (.name []) .root cs)
      | some base =>
        if c = '?' then
          let (query, fragment) := readQuery .file kept
          .ok { base with query, fragment }
        else if c = '#' then .ok { base with fragment := readFragment kept }
        else if startsWithDriveLetter kept then .ok (fileUrl (.name []) .root cs)
        else .ok (continueFrom base (.beside .file (baseSegments base)) cs)
  | [] =>
    match base with
    | none => .ok (fileUrl (.name []) .root [])
    | some base => .ok { base with fragment := none }

/-! ### Whole texts -/

def readOther (scheme cs : List Char) : Except UrlError Url :=
  match cs with
  | '/' :: '/' :: rest => readAuthority scheme rest
  | _ =>
    let (query, fragment) := readQuery .other (cs.dropWhile (!endsPath ·))
    let path :=
      match cs with
      | '/' :: rest => Path.segments (readPath .other [] rest)
      | _ => Path.plain (percentEncode controlSet (cs.takeWhile (!endsPath ·)))
    .ok
      { scheme, username := [], password := [], host := none, port := none, path, query
        fragment }

def readAbsolute (base : Option Url) (scheme cs : List Char) : Except UrlError Url :=
  let related := base.filter fun base => base.scheme = scheme
  let kept := withoutBreaks cs
  match SchemeType.of scheme with
  | .file => readFile related cs
  | .special =>
    match related with
    | some base =>
      if (kept.takeWhile isAnySlash).length < 2 then readRelative base kept
      else readAuthority scheme (kept.dropWhile isAnySlash)
    | none => readAuthority scheme (kept.dropWhile isAnySlash)
  | .other => readOther scheme kept

def readSchemeless (base : Option Url) (cs : List Char) : Except UrlError Url :=
  let kept := withoutBreaks cs
  match base with
  | none => .error .relativeWithoutBase
  | some base =>
    if kept.head? = some '#' then .ok { base with fragment := readFragment kept }
    else
      match base.path with
      | .plain _ => .error .relativeToPlainPath
      | .segments _ =>
        if SchemeType.of base.scheme = .file then readFile (some base) cs
        else readRelative base kept

def read (base : Option Url) (text : String) : Except UrlError Url :=
  let cs := withoutMargins text.toList
  match scheme? (withoutBreaks cs) with
  | some scheme => readAbsolute base scheme (afterKept (scheme.length + 1) cs)
  | none => readSchemeless base cs

def parse (text : String) : Except UrlError Url :=
  read none text

def join (base : Url) (text : String) : Except UrlError Url :=
  read (some base) text

end PlayerCipher.Url
