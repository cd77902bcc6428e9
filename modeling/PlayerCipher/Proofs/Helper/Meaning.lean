import Mathlib.Data.List.Basic
import PlayerCipher.Operation
import PlayerCipher.Proofs.Helper.Derivation

/-! What a helper body computes.
A body is read as a program on one array: its first parameter is the array, its second the
index of the call. Known are reading and writing an entry, `reverse` and `splice`, the length
and the remainder. The meaning is defined only where every position that the body touches
exists, so that nothing is padded. Shapes play no part in it: the main statements tell what
the body of an accepted function computes. -/

namespace PlayerCipher

namespace Body

inductive Value (α : Type) where
  | array
  | number (n : Nat)
  | entry (x : α)

/-- Values of the names, the latest first, and the entries of the array. -/
structure Store (α : Type) where
  names : List (String × Value α)
  entries : List α

variable {α : Type}

namespace Store

def value? (store : Store α) (token : Token) : Option (Value α) :=
  if token.kind = .ident then store.names.lookup token.text else none

def isArray (store : Store α) (token : Token) : Bool :=
  match store.value? token with
  | some .array => true
  | _ => false

/-- Value of a name or of a decimal literal. -/
def number? (store : Store α) (token : Token) : Option Nat :=
  if token.kind = .number then Text.decimalBelow? Text.indexLimit token.text.toList
  else
    match store.value? token with
    | some (.number n) => some n
    | _ => none

/-- Value of a name, a literal, or `a.length`. -/
def operand? (store : Store α) : List Token → Option Nat
  | [token] => store.number? token
  | [array, dot, length] =>
    if store.isArray array && dot.isMark "." && length.spells "length" then
      some store.entries.length
    else none
  | _ => none

def arithmetic? (store : Store α) (tokens : List Token) : Option Nat :=
  match tokens with
  | left :: percent :: right =>
    if percent.isMark "%" then do
      let dividend ← store.number? left
      let divisor ← store.operand? right
      if divisor = 0 then none else some (dividend % divisor)
    else store.operand? tokens
  | _ => store.operand? tokens

def position? (store : Store α) (tokens : List Token) : Option Nat :=
  match tokens with
  | array :: opener :: rest =>
    match rest.getLast? with
    | some closer =>
      if store.isArray array && opener.isMark "[" && closer.isMark "]" then
        (store.arithmetic? rest.dropLast).filter fun n => n < store.entries.length
      else none
    | none => none
  | _ => none

def assign? (store : Store α) (target source : List Token) : Option (Store α) :=
  match store.position? target, source with
  | some place, [name] =>
    match store.value? name with
    | some (.entry x) => some { store with entries := store.entries.set place x }
    | _ => none
  | some place, source => do
    let x ← store.entries[← store.position? source]?
    some { store with entries := store.entries.set place x }
  | none, source => do
    let x ← store.entries[← store.position? source]?
    let name ←
      match target with
      | [name] => some name
      | [word, name] => if Shape.isDeclaration word then some name else none
      | _ => none
    if name.isIdentifier then some { store with names := (name.text, .entry x) :: store.names }
    else none

def method? (store : Store α) (method : Token) (arguments : List Token) : Option (Store α) :=
  if method.spells "reverse" && arguments.isEmpty then
    some { store with entries := store.entries.reverse }
  else if method.spells "splice" then
    match arguments.dropWhile fun token => !token.isMark "," with
    | [_, count] => do
      let start ← store.arithmetic? (arguments.takeWhile fun token => !token.isMark ",")
      let count ← store.number? count
      if start + count ≤ store.entries.length then
        some
          { store with entries := store.entries.take start ++ store.entries.drop (start + count) }
      else none
    | _ => none
  else none

/-- The store after an expression for itself: a method call `a.m(...)`, or a name. -/
def evaluate? (store : Store α) (tokens : List Token) : Option (Store α) :=
  match tokens with
  | [name] => (store.value? name).map fun _ => store
  | array :: dot :: method :: opener :: rest =>
    match rest.getLast? with
    | some closer =>
      if store.isArray array && dot.isMark "." && opener.isMark "(" && closer.isMark ")" then
        store.method? method rest.dropLast
      else none
    | none => none
  | _ => none

def step? (store : Store α) (statement : List Token) : Option (Store α) :=
  match statement.dropWhile fun token => !token.isMark "=" with
  | _ :: source =>
    store.assign? (statement.takeWhile fun token => !token.isMark "=") source
  | [] => store.evaluate? statement

/-- The store after the last statement of a body, which may begin with `return`. -/
def last? (store : Store α) (statement : List Token) : Option (Store α) :=
  store.step? statement <|>
    match statement with
    | word :: rest => if word.spells "return" then store.evaluate? rest else none
    | [] => none

def run? (store : Store α) : List (List Token) → Option (Store α)
  | [] => some store
  | [statement] => store.last? statement
  | statement :: statements => do
    let store ← store.step? statement
    store.run? statements

end Store

/-- The store in which a body begins: the first parameter is the array, the second the index. -/
def start (params : List String) (xs : List α) (index : Nat) : Store α :=
  ⟨params.zip [.array, .number index], xs⟩

/-- What the body of the function makes of the array for an index. -/
def meaning? (function : Definition) (xs : List α) (index : Nat) : Option (List α) :=
  ((start function.params xs index).run? (statements function.body)).map Store.entries

def hasRemainder (statement : List Token) : Bool :=
  statement.any fun token => token.isMark "%"

def takesRemainder (function : Definition) : Bool :=
  (statements function.body).any hasRemainder

/-- What a helper of a kind is to make of the array: the entry at the index, or at its remainder
by the length, is exchanged with the first or deleted. -/
def computed? (kind : Operation.Kind) (modular : Bool) (xs : List α) (index : Nat) :
    Option (List α) :=
  let place :=
    if modular then if xs.length = 0 then none else some (index % xs.length)
    else if index < xs.length then some index else none
  match kind with
  | .swap => place.map (exchangeFirst xs)
  | .reverse => some xs.reverse
  | .removeAt => place.map xs.eraseIdx

end Body

end PlayerCipher
