import PlayerCipher.Text.Chars
import PlayerCipher.Text.Numeral

/-! Durations and their texts.
A text is a row of spans, each a number and a unit. A number may have a fraction as long as
the span still is a whole number of nanoseconds, or of seconds for the units from the hour
on. Every amount is a number below `indexLimit`. -/

namespace PlayerCipher

open Text

structure Duration where
  nanoseconds : Nat
deriving DecidableEq, Repr

namespace Duration

def nanosPerSecond : Nat := 1000000000

def seconds (duration : Duration) : Nat := duration.nanoseconds / nanosPerSecond

def subNanoseconds (duration : Duration) : Nat := duration.nanoseconds % nanosPerSecond

def ofSeconds (n : Nat) : Duration := ⟨n * nanosPerSecond⟩

inductive Grain where
  | nanosecond
  | second
deriving DecidableEq, Repr

structure Size where
  grain : Grain
  count : Nat
deriving DecidableEq, Repr

/-- A unit of time: its names, its size, and the size by which fractions of it are taken. -/
structure TimeUnit where
  names : List String
  whole : Size
  fraction : Option Size
deriving DecidableEq, Repr

/-- The units. A year is 365.25 days and a month is 30.44 days. -/
def units : List TimeUnit := [
  ⟨["nanos", "nsec", "ns"], ⟨.nanosecond, 1⟩, none⟩,
  ⟨["usec", "us", "µs"], ⟨.nanosecond, 1000⟩, some ⟨.nanosecond, 1000⟩⟩,
  ⟨["millis", "msec", "ms"], ⟨.nanosecond, 1000000⟩, some ⟨.nanosecond, 1000000⟩⟩,
  ⟨["seconds", "second", "secs", "sec", "s"], ⟨.second, 1⟩, some ⟨.nanosecond, nanosPerSecond⟩⟩,
  ⟨["minutes", "minute", "min", "mins", "m"], ⟨.second, 60⟩,
    some ⟨.nanosecond, 60 * nanosPerSecond⟩⟩,
  ⟨["hours", "hour", "hrs", "hr", "h"], ⟨.second, 3600⟩, some ⟨.second, 3600⟩⟩,
  ⟨["days", "day", "d"], ⟨.second, 86400⟩, some ⟨.second, 86400⟩⟩,
  ⟨["weeks", "week", "wks", "wk", "w"], ⟨.second, 604800⟩, some ⟨.second, 604800⟩⟩,
  ⟨["months", "month", "M"], ⟨.second, 2630016⟩, some ⟨.second, 2630016⟩⟩,
  ⟨["years", "year", "yrs", "yr", "y"], ⟨.second, 31557600⟩, some ⟨.second, 31557600⟩⟩]

def unit? (name : List Char) : Option TimeUnit :=
  units.find? fun unit => unit.names.contains (String.ofList name)

def bounded? (n : Nat) : Option Nat :=
  if n < indexLimit then some n else none

def add? (duration : Duration) (grain : Grain) (amount : Nat) : Option Duration := do
  let added ←
    match grain with
    | .nanosecond => do
      let _ ← bounded? (duration.subNanoseconds + amount)
      some amount
    | .second => some (amount * nanosPerSecond)
  let total : Duration := ⟨duration.nanoseconds + added⟩
  let _ ← bounded? total.seconds
  some total

/-- The duration, longer by a number of units of one size. The number is written with
`places` digits after the point. -/
def addSized? (duration : Duration) (size : Size) (digits places : Nat) : Option Duration := do
  let digits ← bounded? digits
  let denominator ← bounded? (Nat.pow 10 places)
  let scaled ← bounded? (digits * size.count)
  if scaled % denominator = 0 then duration.add? size.grain (scaled / denominator) else none

def isUnitChar (c : Char) : Bool :=
  c.isAlpha || c == 'µ'

/-- One span: the digits before the point, those after it, and the name of the unit. -/
structure Span where
  whole : List Char
  fraction : Option (List Char)
  unitName : List Char
deriving DecidableEq, Repr

def addSpan? (duration : Duration) (span : Span) : Option Duration := do
  let unit ← unit? span.unitName
  let duration ← duration.addSized? unit.whole (decimalValue span.whole) 0
  match span.fraction with
  | none => some duration
  | some digits =>
    let size ← unit.fraction
    duration.addSized? size (decimalValue digits) digits.length

def readDigits (cs : List Char) : List Char × List Char :=
  let isPart c := c.isDigit || isBlank c
  ((cs.takeWhile isPart).filter Char.isDigit, cs.dropWhile isPart)

def readFraction? (cs : List Char) : Option (Option (List Char) × List Char) :=
  match cs with
  | '.' :: rest =>
    match readDigits rest with
    | ([], _) => none
    | (digits, rest) => some (some digits, rest)
  | _ => some (none, cs)

/-- The span that a text begins with, and what follows it. A unit ends at a blank or at the
next number. -/
def readSpan? (cs : List Char) : Option (Span × List Char) := do
  let (whole, cs) := readDigits cs
  if whole.isEmpty then none
  let (fraction, cs) ← readFraction? cs
  let rest := cs.dropWhile isUnitChar
  match rest with
  | [] => some (⟨whole, fraction, cs.takeWhile isUnitChar⟩, [])
  | c :: _ =>
    if c.isDigit || isBlank c then
      some (⟨whole, fraction, cs.takeWhile isUnitChar⟩, rest.dropWhile isBlank)
    else none

def readSpans? : (fuel : Nat) → Duration → List Char → Option Duration
  | 0, _, _ => none
  | fuel + 1, duration, cs =>
    match readSpan? cs with
    | none => none
    | some (span, rest) =>
      match duration.addSpan? span with
      | none => none
      | some duration => if rest.isEmpty then some duration else readSpans? fuel duration rest

/-- The duration that a text denotes. A zero needs no unit if it is the whole text. -/
def parse? (text : String) : Option Duration :=
  if text = "0" then some ⟨0⟩
  else
    let cs := text.toList.dropWhile isBlank
    readSpans? (cs.length + 1) ⟨0⟩ cs

end Duration

end PlayerCipher
