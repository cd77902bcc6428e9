import PlayerCipher.Driver.Recording
import PlayerCipher.Proofs.Checked.Call
import PlayerCipher.Proofs.Checked.Lexeme
import PlayerCipher.Proofs.Checked.Shape

/-! The checked run over a source.
The recording looks for `param.split("")` in windows of six tokens, and ranks each candidate once.
With it the run is whole: it takes a source to its tokens, its functions, its helpers and its
recipe, and meets no fault on the way. -/

namespace PlayerCipher

namespace Driver

theorem splits_short (param : String) {tokens : List Token} (short : tokens.length < 6) :
    splits param tokens = false := by
  induction tokens with
  | nil => rfl
  | cons token tokens ih =>
    have rest : tokens.length < 6 := Nat.lt_of_succ_lt short
    rw [splits, ih rest, Bool.or_false]
    match tokens, short with
    | [], _ | [_], _ | [_, _], _ | [_, _, _], _ | [_, _, _, _], _ => rfl
    | _ :: _ :: _ :: _ :: _ :: _, short =>
      simp only [List.length_cons] at short
      omega

end Driver

namespace Checked

open Driver (Candidate)

def splitsHere (param : String) (window : List Token) : Checked Bool := do
  let array ← get window 0
  let dot ← get window 1
  let method ← get window 2
  let opener ← get window 3
  let separator ← get window 4
  let closer ← get window 5
  return array.spells param && dot.isMark "." && method.spells "split" && opener.isMark "(" &&
    separator.contents? == some "" && closer.isMark ")"

def splitPass (param : String) (tokens : List Token) (_ : Unit) (place : Nat) :
    Checked (Pass Unit Bool) := do
  let window ← slice tokens place (place + 6)
  let holds ← splitsHere param window
  return if holds then .done true else .next (place + 1) ()

/-- Whether `param.split("")` occurs in a run; each place has a window that has six tokens. -/
def splits (param : String) (tokens : List Token) : Checked Bool :=
  loop (tokens.length - 5) (splitPass param tokens) (fun _ _ => false) () 0

def splitsInput (function : Definition) : Checked Bool :=
  match function.params with
  | [] => return false
  | param :: _ => splits param function.body

/-- What a candidate is ranked by, its place left aside. -/
structure Rank where
  located : Bool
  splits : Bool
  calls : Nat

def Rank.above (a b : Rank) : Bool :=
  if a.located != b.located then a.located
  else if a.splits != b.splits then a.splits
  else b.calls < a.calls

def rank (located : Option String) (candidate : Candidate) : Checked Rank := do
  let splits ← splitsInput candidate.function
  return ⟨candidate.isLocated located, splits, candidate.calls.length⟩

/-- The best candidate with its rank; of equal ones the first. -/
def best? (located : Option String) : List Candidate → Checked (Option (Candidate × Rank))
  | [] => return none
  | candidate :: candidates => do
    let first ← rank located candidate
    match ← best? located candidates with
    | none => return some (candidate, first)
    | some (other, second) =>
      return some (if second.above first then (other, second) else (candidate, first))

def candidate (names : HelperNames) (function : Definition) : Checked Candidate := do
  let calls ← callsIn names function.body
  return ⟨function, calls⟩

def firstCalling (names : HelperNames) : List Definition → Checked (Option Candidate)
  | [] => return none
  | function :: functions => do
    let candidate ← candidate names function
    if candidate.calls.isEmpty then firstCalling names functions else return some candidate

def select? (functions : List Definition) (choice : DriverChoice) (names : HelperNames)
    (located : Option String) : Checked (Option Candidate) :=
  match choice with
  | .named name => firstCalling names (functions.filter fun function => function.name == some name)
  | .auto => do
    let candidates ← map (candidate names) functions
    let best ← best? located (candidates.filter fun candidate => !candidate.calls.isEmpty)
    return best.map Prod.fst

def record (functions : List Definition) (choice : DriverChoice) (names : HelperNames)
    (located : Option String) : Checked (Except RecordError Recipe) := do
  let some driver ← select? functions choice names located | return .error .noDriver
  return Driver.recipeOf driver.function driver.calls

structure Reading where
  helpers : Except ClassifyError HelperNames
  recipe : Except RecordError Recipe

/-- The run over a source: its tokens, its functions, and from them the helpers and, for given
names of helpers, the recipe of the driver. -/
def run (source : String) (choice : DriverChoice) (names : HelperNames)
    (located : Option String) : Checked Reading := do
  let tokens ← tokenize source
  let functions ← definitions tokens
  let helpers ← classify functions
  let recipe ← record functions choice names located
  return ⟨helpers, recipe⟩

theorem splitsHere_ok (param : String) {tokens : List Token} (enough : 6 ≤ tokens.length) :
    splitsHere param (tokens.take 6) = .ok (Driver.splitsHere param tokens) := by
  match tokens, enough with
  | _ :: _ :: _ :: _ :: _ :: _ :: _, _ => rfl

theorem splits_loop (param : String) (after : List Token) :
    ∀ before, loop ((before ++ after).length - 5) (splitPass param (before ++ after))
      (fun _ _ => false) () before.length = .ok (Driver.splits param after) := by
  induction after with
  | nil =>
    intro before
    apply loop_finish
    simp
  | cons token after ih =>
    intro before
    by_cases short : (token :: after).length < 6
    · rw [Driver.splits_short param short]
      apply loop_finish
      rw [List.length_append]
      omega
    · have inside : before.length < (before ++ token :: after).length - 5 := by
        rw [List.length_append]
        omega
      have whole : before ++ token :: after = (before ++ [token]) ++ after := by
        simp
      have window : slice (before ++ token :: after) before.length (before.length + 6) =
          .ok ((token :: after).take 6) := by
        have six : ((token :: after).take 6).length = 6 :=
          List.length_take_of_le (Nat.not_lt.1 short)
        apply @slice_ok _ _ before _ ((token :: after).drop 6)
        · rw [List.append_assoc, List.take_append_drop]
        · rfl
        · rw [six]
      have pass : splitPass param (before ++ token :: after) () before.length =
          .ok (if Driver.splitsHere param (token :: after) then .done true
            else .next (before.length + 1) ()) := by
        rw [splitPass, window, ok_bind, splitsHere_ok param (Nat.not_lt.1 short)]
        rfl
      rw [Driver.splits]
      cases here : Driver.splitsHere param (token :: after) with
      | true =>
        rw [here] at pass
        exact loop_done inside pass
      | false =>
        rw [here] at pass
        have length : (before ++ [token]).length = before.length + 1 := List.length_append
        have next := ih (before ++ [token])
        rw [← whole, length] at next
        rw [loop_next inside pass (Nat.lt_succ_self _), Bool.false_or]
        exact next

theorem splitsInput_ok (function : Definition) :
    splitsInput function = .ok (Driver.splitsInput function) := by
  unfold splitsInput Driver.splitsInput
  cases function.params with
  | nil => rfl
  | cons param _ => exact splits_loop param function.body []

def rankOf (located : Option String) (candidate : Candidate) : Rank :=
  ⟨candidate.isLocated located, Driver.splitsInput candidate.function, candidate.calls.length⟩

theorem best?_ok (located : Option String) (candidates : List Candidate) :
    best? located candidates =
      .ok ((Candidate.best? located candidates).map fun best => (best, rankOf located best)) := by
  induction candidates with
  | nil => rfl
  | cons candidate candidates ih =>
    have first : rank located candidate = .ok (rankOf located candidate) := by
      rw [rank, splitsInput_ok]
      rfl
    rw [best?, first, ok_bind, ih, ok_bind, Candidate.best?]
    cases Candidate.best? located candidates with
    | none => rfl
    | some other =>
      have above : (rankOf located other).above (rankOf located candidate) =
          other.outranks located candidate := rfl
      simp only [Option.map_some, above]
      split_ifs <;> rfl

theorem candidate_ok (names : HelperNames) (function : Definition) :
    candidate names function = .ok ⟨function, PlayerCipher.callsIn names function.body⟩ := by
  rw [candidate, callsIn_ok]
  rfl

theorem firstCalling_ok (names : HelperNames) (functions : List Definition) :
    firstCalling names functions = .ok (Driver.candidates names functions).head? := by
  induction functions with
  | nil => rfl
  | cons function functions ih =>
    rw [firstCalling, candidate_ok, ok_bind, ih, Driver.candidates, Driver.candidates,
      List.map_cons, List.filter_cons]
    dsimp only
    cases (PlayerCipher.callsIn names function.body).isEmpty <;> rfl

theorem select?_ok (functions : List Definition) (choice : DriverChoice) (names : HelperNames)
    (located : Option String) :
    select? functions choice names located =
      .ok (Driver.select? functions choice names located) := by
  cases choice with
  | named name => exact firstCalling_ok _ _
  | auto =>
    unfold select?
    dsimp only
    rw [map_ok (candidate_ok names), ok_bind, best?_ok, ok_bind, Option.map_map]
    exact congrArg Except.ok Option.map_id'

theorem record_ok (functions : List Definition) (choice : DriverChoice) (names : HelperNames)
    (located : Option String) :
    record functions choice names located =
      .ok (Driver.record functions choice names located) := by
  rw [record, select?_ok, ok_bind, Driver.record]
  cases Driver.select? functions choice names located <;> rfl

/-- No source leads to a fault: every read is in range, every slice of the source cuts at
characters, no difference falls below zero and every loop moves on to its end. What is read
is what the definitions give. -/
theorem run_ok (source : String) (choice : DriverChoice) (names : HelperNames)
    (located : Option String) :
    run source choice names located =
      .ok ⟨Helper.classifyScript source,
        Driver.record (PlayerCipher.definitions (PlayerCipher.tokenize source)) choice names
          located⟩ := by
  rw [run, tokenize_ok, ok_bind, definitions_ok, ok_bind, classify_ok, ok_bind, record_ok]
  rfl

end Checked

end PlayerCipher
