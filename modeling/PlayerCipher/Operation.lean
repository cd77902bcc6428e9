import PlayerCipher.Text.Numeral

/-! Elementary operations on a sequence, and the recipes made of them.
An operation moves or removes entries and never looks at them, so it is defined for lists of
any type; a signature is the list of its characters. A recipe fails at its first operation
that does not apply, and then it has no result. -/

namespace PlayerCipher

inductive Operation.Kind where
  | swap
  | reverse
  | removeAt
deriving DecidableEq, Repr

namespace Operation.Kind

/-- All kinds, in the order in which their helpers are looked for. -/
def all : List Kind := [.swap, .reverse, .removeAt]

/-- Whether a call must carry an integer literal for this kind. -/
def needsIndex : Kind → Bool
  | .reverse => false
  | .swap | .removeAt => true

def label : Kind → String
  | .swap => "swap"
  | .reverse => "reverse"
  | .removeAt => "remove-at"

end Operation.Kind

inductive Operation where
  /-- Exchanges position 0 with position `index` modulo the length. -/
  | swap (index : Nat)
  | reverse
  /-- Deletes the entry at `index`. -/
  | removeAt (index : Nat)
deriving DecidableEq, Repr

/-- An operation whose index does not fit a sequence of the given length. -/
structure IndexError where
  kind : Operation.Kind
  index : Nat
  length : Nat
deriving DecidableEq, Repr

namespace IndexError

def message (e : IndexError) : String :=
  e.kind.label ++ " index " ++ Text.decimal e.index ++
    " out of range for signature of length " ++ Text.decimal e.length

end IndexError

/-- Exchanges the first entry with the one at `index`; does nothing beyond the end. -/
def exchangeFirst {α : Type} (xs : List α) (index : Nat) : List α :=
  match xs[0]?, xs[index]? with
  | some first, some other => (xs.set 0 other).set index first
  | _, _ => xs

namespace Operation

def kind : Operation → Kind
  | .swap _ => .swap
  | .reverse => .reverse
  | .removeAt _ => .removeAt

/-- Operation of a kind with the index that its call carries. A reversal ignores the index;
the other kinds need one. -/
def ofCall? : Kind → Option Nat → Option Operation
  | .swap, some index => some (.swap index)
  | .removeAt, some index => some (.removeAt index)
  | .reverse, _ => some .reverse
  | .swap, none => none
  | .removeAt, none => none

def render : Operation → String
  | .swap index => "swap(" ++ Text.decimal index ++ ")"
  | .reverse => "reverse"
  | .removeAt index => "remove_at(" ++ Text.decimal index ++ ")"

def apply {α : Type} (operation : Operation) (xs : List α) : Except IndexError (List α) :=
  match operation with
  | .swap index =>
    if xs.length = 0 then .error ⟨.swap, index, 0⟩
    else .ok (exchangeFirst xs (index % xs.length))
  | .reverse => .ok xs.reverse
  | .removeAt index =>
    if index < xs.length then .ok (xs.eraseIdx index)
    else .error ⟨.removeAt, index, xs.length⟩

end Operation

structure Recipe where
  operations : List Operation
deriving DecidableEq, Repr

namespace Recipe

def run {α : Type} : List Operation → List α → Except IndexError (List α)
  | [], xs => .ok xs
  | operation :: operations, xs => operation.apply xs >>= run operations

/-- The signature after every operation, or the failure of the first that does not apply. -/
def apply (recipe : Recipe) (signature : String) : Except IndexError String :=
  (run recipe.operations signature.toList).map String.ofList

/-- What each operation leaves, up to the first that fails. -/
def steps {α : Type} : List Operation → List α → List (Except IndexError (List α))
  | [], _ => []
  | operation :: operations, xs =>
    match operation.apply xs with
    | .ok ys => .ok ys :: steps operations ys
    | .error e => [.error e]

def render (recipe : Recipe) : String :=
  " -> ".intercalate (recipe.operations.map Operation.render)

end Recipe

end PlayerCipher
