import PlayerCipher.Error
import PlayerCipher.Json.Recipe
import PlayerCipher.Text.Style

/-! Reports.
A report is a cipher with the outcome for every signature that was asked for, and a stream URL
if there is one. It is written as text for a reader or as JSON. The quiet text leaves out the
cipher and the inputs of the deciphered signatures; failures stay. -/

namespace PlayerCipher

open Text

inductive Verbosity where
  | quiet
  | normal
  | verbose
deriving DecidableEq, Repr

/-- A signature and what came of it: the deciphered text or the message of the failure. -/
structure Outcome where
  input : String
  result : Except String String

namespace Outcome

def ofResult (input : String) (result : Except Error String) : Outcome :=
  ⟨input, result.mapError Error.message⟩

def ofSignature (cipher : Cipher) (signature : String) : Outcome :=
  ofResult signature ((cipher.decipher signature).mapError .interpretation)

def succeeded (outcome : Outcome) : Bool :=
  match outcome.result with
  | .ok _ => true
  | .error _ => false

def line (verbosity : Verbosity) (coloured : Bool) (outcome : Outcome) : String :=
  match outcome.result, verbosity with
  | .ok output, .quiet => output ++ "\n"
  | .ok output, _ => outcome.input ++ " -> " ++ Style.green.paint coloured output ++ "\n"
  | .error message, _ => outcome.input ++ " -> " ++ Style.red.paint coloured message ++ "\n"

def toJson (outcome : Outcome) : Json :=
  .obj <| ("input", .str outcome.input) ::
    match outcome.result with
    | .ok output => [("output", .str output)]
    | .error message => [("error", .str message)]

end Outcome

structure Report where
  cipher : Cipher
  outcomes : List Outcome
  streamUrl : Option String

namespace Report

def succeeded (report : Report) : Bool :=
  report.outcomes.all Outcome.succeeded

def helperLine (coloured : Bool) (names : HelperNames) (kind : Operation.Kind) : String :=
  "  " ++ padRight 10 kind.label ++ " " ++ Style.cyan.paint coloured (names.get kind) ++ "\n"

def stepLine (operation : Operation) (index : Nat) : String :=
  "  " ++ padLeft 3 (decimal (index + 1)) ++ ". " ++ operation.render ++ "\n"

/-- The operations: one a line, or all on one line unless there are none. -/
def recipeLines (verbosity : Verbosity) (recipe : Recipe) : List String :=
  match verbosity with
  | .verbose => (recipe.operations.zipIdx).map fun (operation, index) => stepLine operation index
  | _ => if recipe.operations.isEmpty then [] else ["  " ++ recipe.render ++ "\n"]

def cipherLines (verbosity : Verbosity) (coloured : Bool) (cipher : Cipher) : List String :=
  [Style.bold.paint coloured "Script version:" ++ " " ++ cipher.version.text ++ "\n",
    Style.bold.paint coloured "Helpers:" ++ "\n"] ++
    Operation.Kind.all.map (helperLine coloured cipher.names) ++
    [Style.bold.paint coloured "Recipe:" ++ " " ++ decimal cipher.recipe.operations.length ++
      " step(s)\n"] ++
    recipeLines verbosity cipher.recipe

def streamUrlLine (verbosity : Verbosity) (coloured : Bool) (url : String) : String :=
  match verbosity with
  | .quiet => url ++ "\n"
  | _ => Style.bold.paint coloured "Stream URL:" ++ " " ++ url ++ "\n"

def lines (verbosity : Verbosity) (coloured : Bool) (report : Report) : List String :=
  (if verbosity = .quiet then [] else cipherLines verbosity coloured report.cipher) ++
    report.outcomes.map (Outcome.line verbosity coloured) ++
    (report.streamUrl.map (streamUrlLine verbosity coloured)).toList

def text (verbosity : Verbosity) (coloured : Bool) (report : Report) : String :=
  String.join (report.lines verbosity coloured)

def toJson (report : Report) : Json :=
  .obj <|
    [("version", .str report.cipher.version.text),
      ("names", .obj
        [("swap", .str report.cipher.names.swap), ("reverse", .str report.cipher.names.reverse),
          ("remove_at", .str report.cipher.names.removeAt)]),
      ("recipe", report.cipher.recipe.toJson),
      ("signatures", .arr (report.outcomes.map Outcome.toJson))] ++
    (report.streamUrl.map fun url => ("stream_url", Json.str url)).toList

def json (report : Report) : String :=
  report.toJson.renderIndented

end Report

end PlayerCipher
