import PlayerCipher.Text.Numeral

/-! JSON values and their two written forms.
Natural numbers are numbers of their own; any other number keeps its text. The compact form
has no blanks; the indented form has one entry per line, two blanks deeper than the line of
its bracket, and writes an empty array or object as a pair of brackets. -/

namespace PlayerCipher

inductive Json where
  | null
  | bool (value : Bool)
  | natural (value : Nat)
  /-- A number with a sign, a fraction or an exponent. -/
  | number (text : List Char)
  | str (value : String)
  | arr (items : List Json)
  | obj (fields : List (String × Json))

namespace Json

open Text

def escapeChar (c : Char) : List Char :=
  if c = '"' then ['\\', '"']
  else if c = '\\' then ['\\', '\\']
  else if c = '\x08' then ['\\', 'b']
  else if c = '\x0c' then ['\\', 'f']
  else if c = '\n' then ['\\', 'n']
  else if c = '\r' then ['\\', 'r']
  else if c = '\t' then ['\\', 't']
  else if c.toNat < 0x20 then
    ['\\', 'u', '0', '0', hexDigit (c.toNat / 16), hexDigit c.toNat]
  else [c]

def quote (text : String) : List Char :=
  '"' :: (text.toList.flatMap escapeChar ++ ['"'])

mutual

def compact : Json → List Char
  | .null => "null".toList
  | .bool true => "true".toList
  | .bool false => "false".toList
  | .natural n => (decimal n).toList
  | .number text => text
  | .str text => quote text
  | .arr [] => ['[', ']']
  | .arr (item :: items) => '[' :: (compact item ++ compactItems items ++ [']'])
  | .obj [] => ['\x7b', '\x7d']
  | .obj ((key, value) :: fields) =>
    '\x7b' :: (quote key ++ ':' :: (compact value ++ compactFields fields ++ ['\x7d']))

def compactItems : List Json → List Char
  | [] => []
  | item :: items => ',' :: (compact item ++ compactItems items)

def compactFields : List (String × Json) → List Char
  | [] => []
  | (key, value) :: fields =>
    ',' :: (quote key ++ ':' :: (compact value ++ compactFields fields))

end

/-- A new line, indented by `depth` steps. -/
def newLine (depth : Nat) : List Char :=
  '\n' :: List.replicate (2 * depth) ' '

mutual

/-- The indented form of a value that stands `depth` steps deep. -/
def indented (depth : Nat) : Json → List Char
  | .null => "null".toList
  | .bool true => "true".toList
  | .bool false => "false".toList
  | .natural n => (decimal n).toList
  | .number text => text
  | .str text => quote text
  | .arr [] => ['[', ']']
  | .arr (item :: items) =>
    '[' :: (newLine (depth + 1) ++ indented (depth + 1) item ++
      indentedItems (depth + 1) items ++ newLine depth ++ [']'])
  | .obj [] => ['\x7b', '\x7d']
  | .obj ((key, value) :: fields) =>
    '\x7b' :: (newLine (depth + 1) ++ quote key ++ ':' :: ' ' :: (indented (depth + 1) value ++
      indentedFields (depth + 1) fields ++ newLine depth ++ ['\x7d']))

def indentedItems (depth : Nat) : List Json → List Char
  | [] => []
  | item :: items => ',' :: (newLine depth ++ indented depth item ++ indentedItems depth items)

def indentedFields (depth : Nat) : List (String × Json) → List Char
  | [] => []
  | (key, value) :: fields =>
    ',' :: (newLine depth ++ quote key ++ ':' :: ' ' :: (indented depth value ++
      indentedFields depth fields))

end

def renderCompact (value : Json) : String :=
  String.ofList value.compact

def renderIndented (value : Json) : String :=
  String.ofList (value.indented 0)

end Json

end PlayerCipher
