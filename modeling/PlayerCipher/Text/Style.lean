import PlayerCipher.Text.Chars

/-! Styled text for terminals.
A style opens with an escape sequence and ends with the reset sequence. A reset inside the
styled text would end the style too early, so the style is opened again after it. -/

namespace PlayerCipher.Text

inductive Style where
  | bold
  | cyan
  | green
  | red
  | warning
  | failure
deriving DecidableEq, Repr

namespace Style

def parameters : Style → String
  | .bold => "1"
  | .cyan => "36"
  | .green => "32"
  | .red => "31"
  | .warning => "1;33"
  | .failure => "1;31"

def opening (style : Style) : List Char :=
  '\x1b' :: '[' :: (style.parameters.toList ++ ['m'])

def reset : List Char := ['\x1b', '[', '0', 'm']

def reopen (again : List Char) : List Char → List Char
  | '\x1b' :: '[' :: '0' :: 'm' :: cs => reset ++ again ++ reopen again cs
  | c :: cs => c :: reopen again cs
  | [] => []

/-- A text in a style; the bare text if the output has no styles. -/
def paint (coloured : Bool) (style : Style) (text : String) : String :=
  if coloured then
    String.ofList (style.opening ++ reopen style.opening text.toList ++ reset)
  else text

end Style

end PlayerCipher.Text
