import PlayerCipher.Operation

/-! Names of the three helper functions.
The names are non-empty and differ from each other; the type keeps this, and `ofParts`
says which of the rules a triple of texts breaks first. -/

namespace PlayerCipher

inductive ClassifyError where
  | notFound (kind : Operation.Kind)
  | ambiguous (kind : Operation.Kind) (candidates : List String)
deriving DecidableEq, Repr

namespace ClassifyError

def kind : ClassifyError → Operation.Kind
  | .notFound kind => kind
  | .ambiguous kind _ => kind

def message : ClassifyError → String
  | .notFound kind => "no " ++ kind.label ++ " helper found in player script"
  | .ambiguous kind candidates =>
    kind.label ++ " helper is ambiguous, candidates: " ++ ", ".intercalate candidates

end ClassifyError

structure HelperNames where
  swap : String
  reverse : String
  removeAt : String
  swap_ne_empty : swap ≠ ""
  reverse_ne_empty : reverse ≠ ""
  removeAt_ne_empty : removeAt ≠ ""
  reverse_ne_swap : reverse ≠ swap
  removeAt_ne_swap : removeAt ≠ swap
  removeAt_ne_reverse : removeAt ≠ reverse
deriving DecidableEq

namespace HelperNames

/-- Checks the names: an empty one counts as not found, a repeated one as ambiguous. -/
def ofParts (swap reverse removeAt : String) : Except ClassifyError HelperNames :=
  if swapEmpty : swap = "" then .error (.notFound .swap)
  else if reverseEmpty : reverse = "" then .error (.notFound .reverse)
  else if removeAtEmpty : removeAt = "" then .error (.notFound .removeAt)
  else if reverseSwap : reverse = swap then .error (.ambiguous .reverse [reverse])
  else if removeAtSwap : removeAt = swap then .error (.ambiguous .removeAt [removeAt])
  else if removeAtReverse : removeAt = reverse then .error (.ambiguous .removeAt [removeAt])
  else
    .ok
      ⟨swap, reverse, removeAt, swapEmpty, reverseEmpty, removeAtEmpty, reverseSwap,
        removeAtSwap, removeAtReverse⟩

def get (names : HelperNames) : Operation.Kind → String
  | .swap => names.swap
  | .reverse => names.reverse
  | .removeAt => names.removeAt

def kindCalled? (names : HelperNames) (name : String) : Option Operation.Kind :=
  Operation.Kind.all.find? fun kind => names.get kind == name

end HelperNames

end PlayerCipher
