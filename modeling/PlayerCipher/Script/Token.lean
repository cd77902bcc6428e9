import PlayerCipher.Text.Chars

/-! Tokens of a player script.
A token knows its kind, its text and the byte offset at which it starts. Words that the
script language reserves are `ident` tokens too; `isIdentifier` leaves them out. -/

namespace PlayerCipher

inductive Token.Kind where
  | ident
  | number
  | str
  | regex
  | punct
deriving DecidableEq, Repr

structure Token where
  kind : Token.Kind
  text : String
  offset : Nat
deriving DecidableEq, Repr

namespace Token

/-- Reserved words, which name neither a function nor a parameter. -/
def reservedWords : List String :=
  ["break", "case", "catch", "const", "continue", "debugger", "default", "delete", "do",
    "else", "finally", "for", "function", "if", "in", "instanceof", "let", "new", "of",
    "return", "switch", "this", "throw", "try", "typeof", "var", "void", "while", "with",
    "yield", "await"]

def isReserved (word : String) : Bool :=
  reservedWords.contains word

def isMark (token : Token) (text : String) : Bool :=
  token.kind == .punct && token.text == text

def spells (token : Token) (word : String) : Bool :=
  token.kind == .ident && token.text == word

def isIdentifier (token : Token) : Bool :=
  token.kind == .ident && !isReserved token.text

theorem isMark_iff {token : Token} {text : String} :
    token.isMark text = true ↔ token.kind = .punct ∧ token.text = text := by
  simp [isMark]

theorem spells_iff {token : Token} {word : String} :
    token.spells word = true ↔ token.kind = .ident ∧ token.text = word := by
  simp [spells]

theorem isIdentifier_iff {token : Token} :
    token.isIdentifier = true ↔ token.kind = .ident ∧ isReserved token.text = false := by
  simp [isIdentifier]

/-- Text between the quotes of a closed string literal, escapes as written.
The first quote is taken off before the last one is looked for, so a lone quote has no
contents. -/
def contents? (token : Token) : Option String :=
  if token.kind = .str then
    match token.text.toList with
    | [] => none
    | quote :: rest =>
      if rest.getLast? = some quote then some (String.ofList rest.dropLast) else none
  else none

def view (token : Token) : Kind × String :=
  (token.kind, token.text)

def isWordLike (token : Token) : Bool :=
  token.kind == .ident || token.kind == .number

/-- Compact text of a token run; `wordBefore` tells whether the text before it ends in a word. -/
def renderFrom (wordBefore : Bool) : List Token → List Char
  | [] => []
  | token :: tokens =>
    (if wordBefore && token.isWordLike then [' '] else []) ++
      (token.text.toList ++ renderFrom token.isWordLike tokens)

def render (tokens : List Token) : String :=
  String.ofList (renderFrom false tokens)

end Token

end PlayerCipher
