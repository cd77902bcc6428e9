import PlayerCipher.Text.Composition
import PlayerCipher.Text.Joining
import PlayerCipher.Url.DomainTable
import PlayerCipher.Url.LabelDirection
import PlayerCipher.Url.Punycode

/-! Domain names.
A name is mapped character by character and composed, and each of its labels is written in
ASCII. A label that is written in Punycode already must be the written form of a label that
the mapping leaves alone. The labels of a name must fit together in their directions. -/

namespace PlayerCipher.Url.Domain

open Text

def isForbidden (c : Char) : Bool :=
  c.toNat ≤ 0x20 || c == '\x7f' || "%#/:<>?@[\\]^|".toList.contains c

/-- Characters that a character beyond ASCII stands for; `none` if it must not occur. -/
def mapWide (c : Char) : Option (List Char) :=
  let n := c.toNat
  let alike? : List Nat → Option (List Char)
    | [first, count, distance, target] =>
      if first ≤ n ∧ n < first + count * distance ∧ (n - first) % distance = 0 then
        some [Char.ofNat (target + (n - first))]
      else none
    | _ => none
  let single? : List Nat → Option (List Char)
    | code :: text => if code = n then some (text.map Char.ofNat) else none
    | [] => none
  if DomainTable.excluded.any (Table.covers n) then none
  else if DomainTable.ignored.any (Table.covers n) then some []
  else
    match DomainTable.alike.findSome? alike? with
    | some text => some text
    | none => some ((DomainTable.single.findSome? single?).getD [c])

def mapChar (c : Char) : Option (List Char) :=
  if isAscii c then some [c.toLower] else mapWide c

def map? (name : List Char) : Option (List Char) :=
  (name.mapM mapChar).map fun parts => compose parts.flatten

/-- Joiners stand after a mark that joins consonants; the one that parts letters also stands
between two letters that would join without it. `before` is the label so far, the last
character first. -/
def joinersFit (before : List Char) : List Char → Bool
  | [] => true
  | c :: cs =>
    let followsVirama := (before.head?.map fun b => combiningClass b == 9).getD false
    let parts :=
      ((before.dropWhile isTransparent).head?.map joinsNext).getD false &&
        ((cs.dropWhile isTransparent).head?.map joinsPrevious).getD false
    let fits :=
      if c = '\u200d' then followsVirama
      else if c = '\u200c' then followsVirama || parts
      else true
    fits && joinersFit (c :: before) cs

def longestLabel : Nat := 1000

def longestWritten : Nat := 2000

/-- A label beyond ASCII begins with no mark, its joiners have their place, and it is not too
long. -/
def isSound (label : List Char) : Bool :=
  !(label.head?.map isMark).getD false && joinersFit [] label && label.length ≤ longestLabel

structure Label where
  chars : List Char
  written : List Char
deriving DecidableEq, Repr

def label? (text : List Char) : Option Label :=
  match after? "xn--".toList text with
  | some encoded =>
    if longestWritten < encoded.length then none
    else
      match Punycode.decode encoded with
      | some chars =>
        if chars.all isAscii || !isSound chars || map? chars != some chars then none
        else some ⟨chars, text⟩
      | none => none
  | none =>
    if text.all isAscii then some ⟨text, text⟩
    else if isSound text then
      some ⟨text, "xn--".toList ++ Punycode.encode text⟩
    else none

def toAscii? (name : List Char) : Option (List Char) := do
  let mapped ← map? name
  let labels ← (splitAt '.' mapped).mapM label?
  let ascii := ((labels.map (·.written)).intersperse ['.']).flatten
  if ascii.any isForbidden || !LabelDirection.fit (labels.map (·.chars)) then none
  else some ascii

end PlayerCipher.Url.Domain
