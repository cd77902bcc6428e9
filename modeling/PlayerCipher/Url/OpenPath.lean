import PlayerCipher.Text.Chars
import PlayerCipher.Url.Percent
import PlayerCipher.Url.Scheme

/-! Paths under construction.
A path is read segment by segment. A single dot names the same place, a double dot the place
above. A drive letter is a place that has nothing above it, in the path of every scheme; at
the start of a file path it is written with a colon. -/

namespace PlayerCipher.Url

open Text

/-! ### Drive letters -/

def isDriveLetter (cs : List Char) : Bool :=
  match cs with
  | [letter, mark] => letter.isAlpha && (mark == ':' || mark == '|')
  | _ => false

def isNormalDriveLetter (cs : List Char) : Bool :=
  match cs with
  | [letter, mark] => letter.isAlpha && mark == ':'
  | _ => false

def startsWithDriveLetter (cs : List Char) : Bool :=
  isDriveLetter (cs.take 2) &&
    match cs.drop 2 with
    | [] => true
    | c :: _ => isAnySlash c || endsPath c

def cutDrive? (text : List Char) : Option (List Char × List Char) :=
  let rest := afterKept 2 text
  let drive := (withoutBreaks text).take 2
  if isNormalDriveLetter drive ∧ (rest.head?.map isBreak).getD false ∧ withoutBreaks rest ≠ [] then
    some (drive, withoutBreaks rest)
  else none

def unescapeDots : List Char → List Char
  | '%' :: '2' :: 'e' :: cs => '.' :: unescapeDots cs
  | '%' :: '2' :: 'E' :: cs => '.' :: unescapeDots cs
  | c :: cs => c :: unescapeDots cs
  | [] => []

structure OpenPath where
  /-- Segments that a slash ends. -/
  closed : List (List Char)
  last : List Char
  /-- Whether the path was found to begin with a drive letter. -/
  onDrive : Bool
deriving DecidableEq, Repr

namespace OpenPath

def below (segments : List (List Char)) : OpenPath :=
  ⟨segments, [], false⟩

def root : OpenPath :=
  below []

/-- The path beside the last of these segments. Of a file, a drive letter at the end stays. -/
def beside (type : SchemeType) (segments : List (List Char)) : OpenPath :=
  match segments.getLast? with
  | some segment =>
    if type = .file ∧ isNormalDriveLetter segment then ⟨segments.dropLast, segment, false⟩
    else below segments.dropLast
  | none => root

def segments (path : OpenPath) : List (List Char) :=
  path.closed ++ [path.last]

def isRoot (path : OpenPath) : Bool :=
  path.closed.isEmpty && path.last.isEmpty

def close (path : OpenPath) : OpenPath :=
  { path with closed := path.closed ++ [path.last], last := [] }

def settle (path : OpenPath) : OpenPath :=
  if path.last.isEmpty then path else path.close

def up (path : OpenPath) : OpenPath :=
  if path.last.isEmpty then
    match path.closed.getLast? with
    | some segment =>
      if isDriveLetter segment then path else { path with closed := path.closed.dropLast }
    | none => path
  else path

/-- The path with a text after its last slash. A file path does not go on within the drive
letter that it begins with. -/
def append (type : SchemeType) (path : OpenPath) (text : List Char) : OpenPath :=
  match if type = .file ∧ path.isRoot then cutDrive? text else none with
  | some (drive, rest) => { path with closed := [drive], last := percentEncode pathSet rest }
  | none =>
    let text := withoutBreaks text
    if type = .file ∧ path.isRoot ∧ isDriveLetter text then
      { path with last := text.take 1 ++ [':'], onDrive := true }
    else { path with last := path.last ++ percentEncode pathSet text }

def step (type : SchemeType) (path : OpenPath) (text : List Char) (ended : Bool) : OpenPath :=
  let bare := unescapeDots (withoutBreaks text)
  let isDriveOnly := type = .file ∧ path.closed = [] ∧ isNormalDriveLetter path.last
  let path := if isDriveOnly ∧ bare ≠ [] then path.close else path
  if bare = ['.', '.'] then if ended then path.up.settle else path.up
  else if bare = ['.'] then path.settle
  else if ended then (path.append type text).close
  else path.append type text

def steps (type : SchemeType) (path : OpenPath) : List (List Char) → OpenPath
  | [] => path
  | [text] => path.step type text false
  | text :: texts => steps type (path.step type text true) texts

def extend (type : SchemeType) (path : OpenPath) (cs : List Char) : OpenPath :=
  let text := cs.takeWhile (!endsPath ·)
  path.steps type (splitAt '/' (text.map fun c => if isSlash type c then '/' else c))

/-- The segments of the whole path. A file path loses empty segments at its start, all but the
last segment. -/
def finish (type : SchemeType) (path : OpenPath) : List (List Char) :=
  if type = .file then
    match path.segments.dropWhile List.isEmpty with
    | [] => [[]]
    | rest => rest
  else path.segments

end OpenPath

end PlayerCipher.Url
