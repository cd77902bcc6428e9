import PlayerCipher.Helper.Shape
import PlayerCipher.Script.Lexeme

/-! Classification of helper functions.
Each kind of operation has one shape. The helper of a kind is the one name under which
functions of its shape are defined; definitions without a name do not count, and a name
that is defined twice counts once. -/

namespace PlayerCipher

namespace Shape

def ofKind : Operation.Kind → Shape
  | .swap => .swap
  | .reverse => .reverse
  | .removeAt => .removeAt

end Shape

namespace Helper

/-- The texts of a list without repetitions, each where it stands first. -/
def distinct (names : List String) : List String :=
  names.foldl (fun seen name => if seen.contains name then seen else seen ++ [name]) []

def candidates (kind : Operation.Kind) (functions : List Definition) : List String :=
  distinct ((functions.filter (Shape.ofKind kind).accepts).filterMap Definition.name)

def onlyName (kind : Operation.Kind) : List String → Except ClassifyError String
  | [] => .error (.notFound kind)
  | [name] => .ok name
  | names => .error (.ambiguous kind names)

def nameFor (kind : Operation.Kind) (functions : List Definition) :
    Except ClassifyError String :=
  onlyName kind (candidates kind functions)

def classify (functions : List Definition) : Except ClassifyError HelperNames := do
  let swap ← nameFor .swap functions
  let reverse ← nameFor .reverse functions
  let removeAt ← nameFor .removeAt functions
  HelperNames.ofParts swap reverse removeAt

def classifyScript (source : String) : Except ClassifyError HelperNames :=
  classify (definitions (tokenize source))

end Helper

end PlayerCipher
