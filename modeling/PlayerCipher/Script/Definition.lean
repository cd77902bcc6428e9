import PlayerCipher.Script.Statement

/-! Function definitions of a token run.
Three forms are known: the `function` keyword, the arrow and the method shorthand. A
definition is found at one token of the run, with the tokens before it (nearest first) and
after it at hand; the definitions of a run are listed by the offset of their first token. -/

namespace PlayerCipher

structure Definition where
  name : Option String
  params : List String
  /-- Tokens between the braces, or the whole expression of an arrow without braces. -/
  body : List Token
  /-- Place of the first body token in the run. -/
  bodyStart : Nat
  offset : Nat
deriving DecidableEq, Repr

namespace Definition

/-- Words that stand before a parenthesis without being the name of a method. -/
def statementWords : List String :=
  ["if", "for", "while", "switch", "catch", "with", "function", "return", "typeof", "new",
    "do", "else", "try"]

/-- Identifiers with one comma between two of them; a comma may end the list. -/
def parameters? : List Token → Option (List String)
  | [] => some []
  | token :: tokens =>
    if token.isIdentifier then
      match tokens with
      | [] => some [token.text]
      | comma :: tokens =>
        if comma.isMark "," then (parameters? tokens).map (token.text :: ·) else none
    else none

/-- Name that `name = ...` or `name: ...` gives to what follows the tokens `before`. -/
def nameBefore? : List Token → Option String
  | op :: target :: _ =>
    if op.isMark "=" || op.isMark ":" then
      match target.kind with
      | .ident => if target.isIdentifier then some target.text else none
      | .str => target.contents?
      | _ => none
    else none
  | _ => none

/-- First token of a definition and the tokens before it, when `async` may precede `first`. -/
def withAsync (first : Token) (before : List Token) : Token × List Token :=
  match before with
  | word :: before' => if word.spells "async" then (word, before') else (first, before)
  | [] => (first, before)

/-- Parameters and braced body of the run `(params){body}...`, with the tokens between the
parentheses counted. -/
def braced? (tokens : List Token) : Option (List Token × List Token) :=
  match tokens with
  | [] => none
  | opener :: tokens =>
    if opener.isMark "(" then do
      let head ← Bracket.cut? tokens
      match head.rest with
      | [] => none
      | brace :: tokens =>
        if brace.isMark "\x7b" then do
          let block ← Bracket.cut? tokens
          some (head.inner, block.inner)
        else none
    else none

def afterStar : List Token → Nat × List Token
  | star :: rest => if star.isMark "*" then (1, rest) else (0, star :: rest)
  | [] => (0, [])

/-- Name of a function whose keyword stands after `before`, for the run after the keyword: its
own, or the one it is assigned to. The name's own tokens are counted and taken off. -/
def keywordName (before : List Token) : List Token → Option String × Nat × List Token
  | ident :: rest =>
    if ident.isIdentifier then (some ident.text, 1, rest)
    else (nameBefore? before, 0, ident :: rest)
  | [] => (none, 0, [])

def ofKeyword? (before : List Token) (place : Nat) (word : Token) (after : List Token) :
    Option Definition := do
  let (first, before) := withAsync word before
  let (stars, after) := afterStar after
  let (name, named, after) := keywordName before after
  let (head, body) ← braced? after
  let params ← parameters? head
  some
    { name, params, body
      bodyStart := place + 1 + stars + named + 1 + head.length + 2
      offset := first.offset }

/-- Parameters of the arrow that follows the tokens `before`, with the first token of the
definition and the tokens before that. -/
def arrowHead? : List Token → Option (List String × Token × List Token)
  | [] => none
  | last :: before =>
    if last.isMark ")" then do
      let distance ← Bracket.openDistance? (last :: before)
      let params ← parameters? (before.take (distance - 1)).reverse
      match before.drop (distance - 1) with
      | [] => none
      | opener :: before => some (params, opener, before)
    else if last.isIdentifier then some ([last.text], last, before)
    else none

def ofArrow? (before : List Token) (place : Nat) (after : List Token) : Option Definition := do
  let (params, opener, before) ← arrowHead? before
  let (first, before) := withAsync opener before
  let name := nameBefore? before
  match after with
  | [] => none
  | token :: tokens =>
    if token.isMark "\x7b" then do
      let block ← Bracket.cut? tokens
      some
        { name, params, body := block.inner, bodyStart := place + 2, offset := first.offset }
    else
      some
        { name, params, body := after.take (Statement.expressionLength after)
          bodyStart := place + 1, offset := first.offset }

def shorthandParts? (before : List Token) (name : Token) (after : List Token) :
    Option (List Token × List Token) :=
  if name.kind = .ident ∧ name.text ∉ statementWords then
    match before with
    | [] => none
    | last :: _ => if last.isMark "\x7b" || last.isMark "," then braced? after else none
  else none

def ofShorthand? (before : List Token) (place : Nat) (name : Token) (after : List Token) :
    Option Definition := do
  let (head, body) ← shorthandParts? before name after
  let params ← parameters? head
  some
    { name := some name.text, params, body
      bodyStart := place + 1 + 1 + head.length + 2
      offset := name.offset }

/-- Definition that the token at place `place` reveals. -/
def at? (before : List Token) (place : Nat) (token : Token) (after : List Token) :
    Option Definition :=
  if token.spells "function" then ofKeyword? before place token after
  else if token.isMark "=>" then ofArrow? before place after
  else ofShorthand? before place token after

/-- Definitions of a run at place `place`, in the order of the tokens that reveal them. `found`
holds those before it, the latest first. -/
def scan (found : List Definition) (before : List Token) (place : Nat) :
    List Token → List Definition
  | [] => found.reverse
  | token :: after =>
    let found :=
      match at? before place token after with
      | some definition => definition :: found
      | none => found
    scan found (token :: before) (place + 1) after

end Definition

/-- Every function definition of a token run, nested ones included, by ascending offset. -/
def definitions (tokens : List Token) : List Definition :=
  (Definition.scan [] [] 0 tokens).mergeSort fun f g => f.offset ≤ g.offset

def shorthandEnd? (tokens : List Token) (place : Nat) : Option Nat :=
  match tokens.drop place with
  | [] => none
  | name :: after =>
    (Definition.shorthandParts? (tokens.take place).reverse name after).map
      fun (head, body) => place + 1 + 1 + head.length + 2 + body.length + 1

end PlayerCipher
