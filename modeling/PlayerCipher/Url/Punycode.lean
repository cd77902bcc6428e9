/-! Punycode.
A label is written as its ASCII characters and a run of digits that says where the others
belong, smallest character first. The threshold of a digit stays between 1 and 26, so each
digit of a number takes part of it away. -/

namespace PlayerCipher.Url.Punycode

/-- The digits 0 to 35: small letters, then decimal digits. -/
def digitChar (d : Nat) : Char :=
  if d < 26 then Char.ofNat (d + 'a'.toNat) else Char.ofNat (d - 26 + '0'.toNat)

def digitValue? (c : Char) : Option Nat :=
  if 'a' ≤ c ∧ c ≤ 'z' then some (c.toNat - 0x61)
  else if 'A' ≤ c ∧ c ≤ 'Z' then some (c.toNat - 0x41)
  else if '0' ≤ c ∧ c ≤ '9' then some (c.toNat - 0x30 + 26)
  else none

def threshold (k bias : Nat) : Nat :=
  if k ≤ bias then 1 else if bias + 26 ≤ k then 26 else k - bias

theorem threshold_pos (k bias : Nat) : 1 ≤ threshold k bias := by
  unfold threshold
  split
  · omega
  · split <;> omega

theorem threshold_le (k bias : Nat) : threshold k bias ≤ 26 := by
  unfold threshold
  split
  · omega
  · split <;> omega

/-- Divides until the number is at most 455, counting 36 for each division. -/
def reduce (delta k : Nat) : Nat × Nat :=
  if 455 < delta then reduce (delta / 35) (k + 36) else (delta, k)
termination_by delta
decreasing_by exact Nat.div_lt_self (by omega) (by omega)

/-- Bias for the next number, after `delta` was written as the number of place `count`. -/
def adapt (delta count : Nat) (first : Bool) : Nat :=
  let damped := if first then delta / 700 else delta / 2
  let (rest, k) := reduce (damped + damped / count) 0
  k + 36 * rest / (rest + 38)

def writeNumber (bias k q : Nat) : List Char :=
  let t := threshold k bias
  if q < t then [digitChar q]
  else digitChar (t + (q - t) % (36 - t)) :: writeNumber bias (k + 36) ((q - t) / (36 - t))
termination_by q
decreasing_by
  have low := threshold_pos k bias
  have high := threshold_le k bias
  exact Nat.lt_of_le_of_lt (Nat.div_le_self _ _) (by omega)

structure Progress where
  out : List Char
  delta : Nat
  bias : Nat
  handled : Nat

/-- Passes one character of the label while those equal to `target` are written. -/
def pass (basicCount target : Nat) (state : Progress) (c : Char) : Progress :=
  if c.toNat < target then { state with delta := state.delta + 1 }
  else if c.toNat = target then
    { out := state.out ++ writeNumber state.bias 36 state.delta
      delta := 0
      bias := adapt state.delta (state.handled + 1) (state.handled == basicCount)
      handled := state.handled + 1 }
  else state

def writeTargets (label : List Char) (basicCount : Nat) :
    (targets : List Nat) → (least : Nat) → Progress → Progress
  | [], _, state => state
  | target :: targets, least, state =>
    let state := { state with delta := state.delta + (target - least) * (state.handled + 1) }
    let state := label.foldl (pass basicCount target) state
    writeTargets label basicCount targets (target + 1) { state with delta := state.delta + 1 }

def ascending (ns : List Nat) : List Nat :=
  (ns.mergeSort fun a b => a ≤ b).eraseDups

/-- The written form of a label, without the mark that stands before it. -/
def encode (label : List Char) : List Char :=
  let basic := label.filter fun c => c.toNat < 0x80
  let others := ascending ((label.map Char.toNat).filter (0x80 ≤ ·))
  let start : Progress := ⟨[], 0, 72, basic.length⟩
  basic ++ (if basic.isEmpty then [] else ['-']) ++
    (writeTargets label basic.length others 0x80 start).out

/-- Reads a number that adds to `value`, its next digit having weight `weight`. -/
def readNumber (bias k value weight : Nat) : List Char → Option (Nat × List Char)
  | [] => none
  | c :: cs =>
    match digitValue? c with
    | none => none
    | some digit =>
      let value := value + digit * weight
      let t := threshold k bias
      if 0x7fffffff < value then none
      else if digit < t then some (value, cs)
      else readNumber bias (k + 36) value (weight * (36 - t)) cs

theorem readNumber_length {bias k value weight : Nat} {cs rest : List Char} {number : Nat}
    (found : readNumber bias k value weight cs = some (number, rest)) :
    rest.length < cs.length := by
  induction cs generalizing k value weight with
  | nil => simp [readNumber] at found
  | cons c cs ih =>
    rw [readNumber] at found
    split at found
    · simp at found
    · simp only at found
      split at found
      · simp at found
      · split at found
        · cases found
          simp
        · have := ih found
          simp only [List.length_cons]
          omega

def readTargets (n i bias : Nat) (label : List Char) (digits : List Char) :
    Option (List Char) :=
  match digits with
  | [] => some label
  | c :: cs =>
    match _found : readNumber bias 36 i 1 (c :: cs) with
    | none => none
    | some (value, rest) =>
      let count := label.length + 1
      let code := n + value / count
      let place := value % count
      if 0x10ffff < code ∨ (0xd800 ≤ code ∧ code ≤ 0xdfff) then none
      else
        readTargets code (place + 1) (adapt (value - i) count (i == 0))
          (label.take place ++ Char.ofNat code :: label.drop place) rest
termination_by digits.length
decreasing_by exact readNumber_length _found

/-- The label with this written form. The mark after its ASCII characters is written only if
there are some. -/
def decode (text : List Char) : Option (List Char) :=
  let reversed := text.reverse
  let digits := (reversed.takeWhile (· != '-')).reverse
  let basic := ((reversed.dropWhile (· != '-')).drop 1).reverse
  if basic.all fun c => c.toNat < 0x80 then
    if basic.isEmpty then readTargets 0x80 0 72 [] text
    else readTargets 0x80 0 72 basic digits
  else none

end PlayerCipher.Url.Punycode
