import PlayerCipher.Helper.Names
import PlayerCipher.Script.Definition

/-! Shapes of helper bodies.
Names change with every build of the script, while the bodies of the helpers keep their
form. A shape lists token patterns for each statement of a body. Parameters are matched by
position, so that renaming does not matter. An index is written `b` or `b % a.length`, the
same way in the whole body. -/

namespace PlayerCipher

namespace Shape

inductive Pattern where
  | param (position : Nat)
  /-- A local that is no parameter; its first occurrence fixes the name. -/
  | temp
  | punct (text : String)
  | word (text : String)
  | number (text : String)
  /-- The second parameter, or its remainder by the length of the first. -/
  | index
  | declaration
  | returning
deriving DecidableEq, Repr

/-- What the patterns matched so far have fixed. -/
structure Binding where
  temp : Option String
  /-- Whether indexes are written as a remainder. -/
  modular : Option Bool
deriving DecidableEq, Repr

def Binding.none : Binding := ⟨.none, .none⟩

def isParam (params : List String) (position : Nat) (token : Token) : Bool :=
  token.kind == .ident && params[position]? == some token.text

def isDeclaration (token : Token) : Bool :=
  token.spells "var" || token.spells "let" || token.spells "const"

/-- Binds the local to the token, or compares it with the name bound before. -/
def bindTemp? (params : List String) (token : Token) (bindings : Binding) :
    Option Binding :=
  if token.isIdentifier && !params.contains token.text then
    match bindings.temp with
    | some name =>
      if name = token.text then some bindings else none
    | none => some { bindings with temp := some token.text }
  else none

/-- `b % a.length` for the second parameter `b` and the first parameter `a`. -/
def isRemainder (params : List String) (index percent array dot length : Token) : Bool :=
  isParam params 1 index && percent.isMark "%" && isParam params 0 array &&
    dot.isMark "." && length.spells "length"

/-- Matches a statement against patterns. An optional word is taken if the rest then matches,
and so is the longer form of an index. -/
def matchTokens (params : List String) :
    List Pattern → List Token → Binding → Option Binding
  | [], tokens, bindings => if tokens.isEmpty then some bindings else none
  | .declaration :: patterns, tokens, bindings =>
    (match tokens with
      | token :: rest =>
        if isDeclaration token then matchTokens params patterns rest bindings else none
      | [] => none) <|> matchTokens params patterns tokens bindings
  | .returning :: patterns, tokens, bindings =>
    (match tokens with
      | token :: rest =>
        if token.spells "return" then matchTokens params patterns rest bindings else none
      | [] => none) <|> matchTokens params patterns tokens bindings
  | .index :: patterns, tokens, bindings =>
    (match tokens with
      | index :: percent :: array :: dot :: length :: rest =>
        if bindings.modular ≠ some false ∧
            isRemainder params index percent array dot length = true then
          matchTokens params patterns rest { bindings with modular := some true }
        else none
      | _ => none) <|>
    (match tokens with
      | index :: rest =>
        if bindings.modular ≠ some true ∧ isParam params 1 index = true then
          matchTokens params patterns rest { bindings with modular := some false }
        else none
      | [] => none)
  | .temp :: patterns, token :: rest, bindings =>
    (bindTemp? params token bindings).bind (matchTokens params patterns rest)
  | .param position :: patterns, token :: rest, bindings =>
    if isParam params position token then matchTokens params patterns rest bindings else none
  | .punct text :: patterns, token :: rest, bindings =>
    if token.isMark text then matchTokens params patterns rest bindings else none
  | .word text :: patterns, token :: rest, bindings =>
    if token.spells text then matchTokens params patterns rest bindings else none
  | .number text :: patterns, token :: rest, bindings =>
    if token.kind == .number && token.text == text then
      matchTokens params patterns rest bindings
    else none
  | _ :: _, [], _ => none

/-- Matches statements one by one; `none` if there are more on one side. -/
def matchStatements (params : List String) :
    List (List Pattern) → List (List Token) → Binding → Option Binding
  | [], [], bindings => some bindings
  | pattern :: patterns, statement :: statements, bindings =>
    (matchTokens params pattern statement bindings).bind
      (matchStatements params patterns statements)
  | _, _, _ => none

end Shape

structure Shape where
  kind : Operation.Kind
  minParams : Nat
  body : List (List Shape.Pattern)
  /-- Statement that may follow the body. -/
  epilogue : Option (List Shape.Pattern)
deriving Repr

namespace Shape

/-- `var c=a[0];a[0]=a[b%a.length];a[b%a.length]=c`, and perhaps `return a`. -/
def swap : Shape where
  kind := .swap
  minParams := 2
  body :=
    [[.declaration, .temp, .punct "=", .param 0, .punct "[", .number "0", .punct "]"],
      [.param 0, .punct "[", .number "0", .punct "]", .punct "=", .param 0, .punct "[",
        .index, .punct "]"],
      [.param 0, .punct "[", .index, .punct "]", .punct "=", .temp]]
  epilogue := some [.word "return", .param 0]

/-- `a.reverse()` -/
def reverse : Shape where
  kind := .reverse
  minParams := 1
  body := [[.returning, .param 0, .punct ".", .word "reverse", .punct "(", .punct ")"]]
  epilogue := none

/-- `a.splice(b,1)` or `a.splice(b%a.length,1)` -/
def removeAt : Shape where
  kind := .removeAt
  minParams := 2
  body :=
    [[.returning, .param 0, .punct ".", .word "splice", .punct "(", .index, .punct ",",
      .number "1", .punct ")"]]
  epilogue := none

def forms (shape : Shape) : List (List (List Pattern)) :=
  match shape.epilogue with
  | none => [shape.body]
  | some last => [shape.body, shape.body ++ [last]]

def accepts (shape : Shape) (function : Definition) : Bool :=
  shape.minParams ≤ function.params.length &&
    shape.forms.any fun form =>
      (matchStatements function.params form (statements function.body) .none).isSome

end Shape

end PlayerCipher
