import PlayerCipher.Text.Pattern

/-! Call sites of the driver.
The function that calls the helpers is itself defined and called in a few fixed ways. Each
idiom is a pattern over the script text; the idioms are tried in their order over the whole
script, and the first that occurs names the driver. -/

namespace PlayerCipher.CallSite

open Text Text.Pattern

/-- Idiom `XY=function(a){a=a.split("")`. -/
def definition : Pattern :=
  [.capture isNameChar 2, blanks, .text "=", blanks, .text "function", blanks, .text "(",
    blanks, .run isNameChar 1, blanks, .text ")", blanks, .text "\x7b", blanks,
    .run isNameChar 1, blanks, .text "=", blanks, .run isNameChar 1, .text ".split(", blanks,
    .oneOf ["\"\"", "''"], blanks, .text ")"]

/-- Idiom `=XY(decodeURIComponent(`. -/
def decoding : Pattern :=
  [.text "=", blanks, .capture isNameChar 2, blanks, .text "(", blanks,
    .text "decodeURIComponent", blanks, .text "("]

/-- Idiom `.sig||XY(`. -/
def fallback : Pattern :=
  [.text ".sig", blanks, .text "||", blanks, .capture isNameChar 1, blanks, .text "("]

def isArgumentChar (c : Char) : Bool :=
  c != ',' && c != '(' && c != ')'

/-- Idiom `.set(b,encodeURIComponent(XY(`. -/
def encoding : Pattern :=
  [.text ".set", blanks, .text "(", .run isArgumentChar 1, .text ",", blanks,
    .text "encodeURIComponent", blanks, .text "(", blanks, .capture isNameChar 1, blanks,
    .text "("]

def idioms : List Pattern :=
  [definition, decoding, fallback, encoding]

/-- Name of the driver in the leftmost occurrence of the first idiom that occurs. -/
def locate (source : String) : Option String :=
  (idioms.findSome? fun idiom => idiom.search? source.toList).map String.ofList

end PlayerCipher.CallSite
