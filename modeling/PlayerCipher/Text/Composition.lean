import PlayerCipher.Text.Chars
import PlayerCipher.Text.CompositionTable

/-! Canonical composition.
Characters are taken apart, their marks are put in the order of their combining classes, and
what composes is put together again. Hangul syllables follow a formula, all other compositions
stand in a table. -/

namespace PlayerCipher.Text

namespace Hangul

def leadBase : Nat := 0x1100
def vowelBase : Nat := 0x1161
def tailBase : Nat := 0x11a7
def syllableBase : Nat := 0xac00
def leadCount : Nat := 19
def vowelCount : Nat := 21
def tailCount : Nat := 28

def isSyllable (n : Nat) : Bool :=
  syllableBase ≤ n && n < syllableBase + leadCount * vowelCount * tailCount

/-- A lead and a vowel, or a syllable without a tail and a tail. -/
def compose? (first second : Nat) : Option Nat :=
  if leadBase ≤ first ∧ first < leadBase + leadCount ∧
      vowelBase ≤ second ∧ second < vowelBase + vowelCount then
    some (syllableBase +
      ((first - leadBase) * vowelCount + (second - vowelBase)) * tailCount)
  else if isSyllable first ∧ (first - syllableBase) % tailCount = 0 ∧
      tailBase < second ∧ second < tailBase + tailCount then
    some (first + (second - tailBase))
  else none

def split? (n : Nat) : Option (Nat × Nat) :=
  if isSyllable n then
    let tail := (n - syllableBase) % tailCount
    let withoutTail := n - tail
    if tail = 0 then
      some (leadBase + (n - syllableBase) / tailCount / vowelCount,
        vowelBase + (n - syllableBase) / tailCount % vowelCount)
    else some (withoutTail, tailBase + tail)
  else none

end Hangul

def combiningClass (c : Char) : Nat :=
  match CompositionTable.classes.find? (Table.covers c.toNat) with
  | some [_, _, value] => value
  | _ => 0

def isMark (c : Char) : Bool :=
  CompositionTable.marks.any (Table.covers c.toNat)

def composePair? (first second : Char) : Option Char :=
  match Hangul.compose? first.toNat second.toNat with
  | some n => some (Char.ofNat n)
  | none =>
    CompositionTable.pairs.findSome? fun
      | [a, b, composed] =>
        if a = first.toNat ∧ b = second.toNat then some (Char.ofNat composed) else none
      | _ => none

def splitPair? (c : Char) : Option (Char × Char) :=
  match Hangul.split? c.toNat with
  | some (a, b) => some (Char.ofNat a, Char.ofNat b)
  | none =>
    CompositionTable.pairs.findSome? fun
      | [a, b, composed] =>
        if composed = c.toNat then some (Char.ofNat a, Char.ofNat b) else none
      | _ => none

def splitDepth : Nat := 4

def parts : (depth : Nat) → Char → List Char
  | 0, c => [c]
  | depth + 1, c =>
    match splitPair? c with
    | some (first, second) => parts depth first ++ [second]
    | none => [c]

/-- Puts a mark before the marks of higher classes that it follows. The text stands with its
last character first. -/
def insertMark (c : Char) (value : Nat) : List Char → List Char
  | [] => [c]
  | before :: rest =>
    if value < combiningClass before then before :: insertMark c value rest
    else c :: before :: rest

def orderMarks (cs : List Char) : List Char :=
  (cs.foldl (fun reversed c =>
    let value := combiningClass c
    if value = 0 then c :: reversed else insertMark c value reversed) []).reverse

/-- Composes a starter with what follows it. `kept` are the marks after the starter that did
not compose, the last one first, and `top` is the class of the last one. -/
def composeFrom (starter : Char) (kept : List Char) (top : Nat) : List Char → List Char
  | [] => starter :: kept.reverse
  | c :: cs =>
    let value := combiningClass c
    let blocked := !kept.isEmpty && value ≤ top
    match if blocked then none else composePair? starter c with
    | some composed => composeFrom composed kept top cs
    | none =>
      if value = 0 then starter :: (kept.reverse ++ composeFrom c [] 0 cs)
      else composeFrom starter (c :: kept) value cs

/-- The composed form of a text. ASCII characters compose with nothing but marks, so a text of
ASCII characters is its own composed form. -/
def compose (cs : List Char) : List Char :=
  if cs.all isAscii then cs
  else
    match orderMarks (cs.flatMap (parts splitDepth)) with
    | [] => []
    | c :: cs => composeFrom c [] 0 cs

end PlayerCipher.Text
