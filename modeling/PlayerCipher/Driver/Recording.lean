import PlayerCipher.Driver.CallSite
import PlayerCipher.Driver.Call
import PlayerCipher.Script.Lexeme

/-! Recording the driver's calls as a recipe.
The driver is named by the caller, or it is the best ranked function that calls a helper: the
function named at a call site comes first, then one that splits its first parameter, then
the one with more calls, then the earlier one. The recipe holds the operations of its
calls in order; the first call whose arguments cannot be read refuses the recording. -/

namespace PlayerCipher

inductive DriverChoice where
  | auto
  | named (name : String)
deriving DecidableEq, Repr

inductive RecordError where
  | noDriver
  | malformedCall (function : String) (kind : Operation.Kind) (call : String) (reason : String)
deriving DecidableEq, Repr

namespace RecordError

def message : RecordError → String
  | .noDriver => "no driver function calls the signature helpers"
  | .malformedCall function kind call reason =>
    "malformed " ++ kind.label ++ " call \x60" ++ call ++ "\x60 in " ++ function ++ ": " ++ reason

end RecordError

namespace Driver

def operations (function : String) : List Call → Except RecordError (List Operation)
  | [] => .ok []
  | call :: calls =>
    match call.operation with
    | .ok operation => (operations function calls).map (operation :: ·)
    | .error reason => .error (.malformedCall function call.kind call.text reason.message)

def recipeOf (function : Definition) (calls : List Call) : Except RecordError Recipe :=
  (operations (function.name.getD "<anonymous>") calls).map Recipe.mk

/-- Whether a run begins with `param.split("")`. -/
def splitsHere (param : String) : List Token → Bool
  | array :: dot :: method :: opener :: separator :: closer :: _ =>
    array.spells param && dot.isMark "." && method.spells "split" && opener.isMark "(" &&
      separator.contents? == some "" && closer.isMark ")"
  | _ => false

def splits (param : String) : List Token → Bool
  | [] => false
  | token :: tokens => splitsHere param (token :: tokens) || splits param tokens

def splitsInput (function : Definition) : Bool :=
  match function.params with
  | [] => false
  | param :: _ => splits param function.body

structure Candidate where
  function : Definition
  calls : List Call

namespace Candidate

def isLocated (located : Option String) (candidate : Candidate) : Bool :=
  located.isSome && candidate.function.name == located

/-- Whether `a` is ranked before `b`, its place left aside. -/
def outranks (located : Option String) (a b : Candidate) : Bool :=
  if a.isLocated located != b.isLocated located then a.isLocated located
  else if splitsInput a.function != splitsInput b.function then
    splitsInput a.function
  else b.calls.length < a.calls.length

def best? (located : Option String) : List Candidate → Option Candidate
  | [] => none
  | candidate :: candidates =>
    match best? located candidates with
    | none => some candidate
    | some other => if other.outranks located candidate then some other else some candidate

end Candidate

def candidates (names : HelperNames) (functions : List Definition) : List Candidate :=
  (functions.map fun function => ⟨function, callsIn names function.body⟩).filter
    fun candidate : Candidate => !candidate.calls.isEmpty

/-- The driver among the functions. `located` is the name found at a call site; it counts only
where no name is given. -/
def select? (functions : List Definition) (choice : DriverChoice) (names : HelperNames)
    (located : Option String) : Option Candidate :=
  match choice with
  | .named name =>
    (candidates names (functions.filter fun function => function.name == some name)).head?
  | .auto => Candidate.best? located (candidates names functions)

def record (functions : List Definition) (choice : DriverChoice) (names : HelperNames)
    (located : Option String) : Except RecordError Recipe :=
  match select? functions choice names located with
  | some driver => recipeOf driver.function driver.calls
  | none => .error .noDriver

def located? (source : String) : DriverChoice → Option String
  | .auto => CallSite.locate source
  | .named _ => none

def recipeOfScript (source : String) (choice : DriverChoice) (names : HelperNames) :
    Except RecordError Recipe :=
  record (definitions (tokenize source)) choice names (located? source choice)

end Driver

end PlayerCipher
