import PlayerCipher.Helper.Names
import PlayerCipher.Script.Definition

/-! Helper calls made by a function body.
A body is read from left to right. Functions defined inside it are passed over, as their
calls are their own; what remains is searched for `obj.name(...)`, `obj["name"](...)` and
`name(...)` with the name of a helper. The arguments are the signature array and, for swap
and remove-at, an integer literal. -/

namespace PlayerCipher

inductive ArgumentError where
  | missingArray
  | notPlainArray (text : String)
  | missingIndex
  | notInteger (text : String)
  | notDecimal (text : String)
  | tooLarge (text : String)
  | tooMany (count : Nat)
deriving DecidableEq, Repr

namespace ArgumentError

def quote (text : String) : String := "\x60" ++ text ++ "\x60"

def message : ArgumentError → String
  | .missingArray => "missing signature array argument"
  | .notPlainArray text => quote text ++ " is not a plain array identifier"
  | .missingIndex => "missing index argument"
  | .notInteger text => quote text ++ " is not a non-negative integer literal"
  | .notDecimal text => quote text ++ " is not a base-10 integer literal"
  | .tooLarge text =>
    quote text ++ " does not fit an index: number too large to fit in target type"
  | .tooMany count => "expected at most 2 arguments, got " ++ Text.decimal count

end ArgumentError

structure Call where
  kind : Operation.Kind
  text : String
  operation : Except ArgumentError Operation

namespace Call

def indexOf (argument : List Token) : Except ArgumentError Nat :=
  match argument with
  | [token] =>
    if token.kind = .number then
      if token.text.toList.all Char.isDigit then
        match Text.decimalBelow? Text.indexLimit token.text.toList with
        | some index => .ok index
        | none => .error (.tooLarge token.text)
      else .error (.notDecimal token.text)
    else .error (.notInteger (Token.render argument))
  | _ => .error (.notInteger (Token.render argument))

def isPlainArray (argument : List Token) : Bool :=
  match argument with
  | [token] => token.isIdentifier
  | _ => false

/-- Operation of a call from its arguments. A reversal may carry a second one, which is not
looked at. -/
def operationOfParts (kind : Operation.Kind) :
    List (List Token) → Except ArgumentError Operation
  | [] => .error .missingArray
  | array :: rest =>
    if isPlainArray array then
      match rest with
      | [] =>
        match Operation.ofCall? kind none with
        | some operation => .ok operation
        | none => .error .missingIndex
      | [second] =>
        match kind with
        | .reverse => .ok .reverse
        | .swap => (indexOf second).map .swap
        | .removeAt => (indexOf second).map .removeAt
      | _ => .error (.tooMany (rest.length + 1))
    else .error (.notPlainArray (Token.render array))

def operationOf (kind : Operation.Kind) (arguments : List Token) :
    Except ArgumentError Operation :=
  operationOfParts kind (statements arguments)

/-- Number of tokens after `token` that belong to the function it reveals, if it reveals one
inside the body whose tokens before it are `before`. -/
def nestedLength? (before : List Token) (token : Token) (after : List Token) : Option Nat :=
  if token.spells "function" then
    let ahead := (after.takeWhile fun t => !t.isMark "(").length
    (Definition.braced? (after.drop ahead)).map fun (head, body) =>
      ahead + 1 + head.length + 2 + body.length + 1
  else if token.isMark "=>" then
    match after with
    | [] => none
    | brace :: tokens =>
      if brace.isMark "\x7b" then (Bracket.inside? tokens).map fun n => 1 + n + 1
      else some (Statement.expressionLength after)
  else
    (Definition.shorthandParts? before token after).map fun (head, body) =>
      1 + head.length + 2 + body.length + 1

structure Callee where
  name : String
  /-- Tokens of the callee up to the one with the name, in order. -/
  lead : List Token
  /-- Number of tokens after that one, the opening parenthesis included. -/
  bridge : Nat

def callee? (before : List Token) (token : Token) (after : List Token) : Option Callee :=
  match token.kind with
  | .ident =>
    match after with
    | [] => none
    | opener :: _ =>
      if opener.isMark "(" then
        match before with
        | dot :: object :: _ =>
          if dot.isMark "." then some ⟨token.text, [object, dot, token], 1⟩
          else if dot.spells "function" then none
          else some ⟨token.text, [token], 1⟩
        | [last] => if last.spells "function" then none else some ⟨token.text, [token], 1⟩
        | [] => some ⟨token.text, [token], 1⟩
      else none
  | .str =>
    match before, after with
    | bracket :: object :: _, closer :: opener :: _ =>
      if bracket.isMark "[" && closer.isMark "]" && opener.isMark "(" then
        token.contents?.map fun name => ⟨name, [object, bracket, token], 2⟩
      else none
    | _, _ => none
  | _ => none

/-- Call to a helper whose name stands in the token, with the number of tokens after it that
belong to the call. -/
def at? (names : HelperNames) (before : List Token) (token : Token) (after : List Token) :
    Option (Call × Nat) := do
  let callee ← callee? before token after
  let kind ← names.kindCalled? callee.name
  let inside ← Bracket.inside? (after.drop callee.bridge)
  let arguments := (after.drop callee.bridge).take inside
  let length := callee.bridge + inside + 1
  some (⟨kind, Token.render (callee.lead ++ after.take length), operationOf kind arguments⟩, length)

/-- Calls in the rest of a body, with the tokens before it (nearest first) and the calls found
there (latest first). -/
def scan (names : HelperNames) (found : List Call) (before tokens : List Token) :
    List Call :=
  match tokens with
  | [] => found.reverse
  | token :: after =>
    match nestedLength? before token after with
    | some n => scan names found ((after.take n).reverse ++ token :: before) (after.drop n)
    | none =>
      match at? names before token after with
      | some (call, n) =>
        scan names (call :: found) ((after.take n).reverse ++ token :: before) (after.drop n)
      | none => scan names found (token :: before) after
termination_by tokens.length
decreasing_by
  all_goals
    simp only [List.length_drop, List.length_cons]
    omega

end Call

def callsIn (names : HelperNames) (body : List Token) : List Call :=
  Call.scan names [] [] body

end PlayerCipher
