import PlayerCipher.Helper.Names
import PlayerCipher.Proofs.Script.Decimal

/-! Scrambling scripts.
A scrambler writes the smallest script that carries out a recipe: an object with the three
helpers, and a driver that splits its argument, calls a helper for each operation and joins the
result. The script is put together once as text and once from lexemes; it is the same. -/

namespace PlayerCipher

def Operation.fits : Operation → Prop
  | .swap index => index < Text.indexLimit
  | .removeAt index => index < Text.indexLimit
  | .reverse => True

/-- Whether a text is an ASCII name that the script language does not reserve. -/
def isPlainName (text : String) : Bool :=
  (match text.toList with
    | [] => false
    | c :: cs => !c.isDigit && (c :: cs).all Text.isNameChar) && !Token.isReserved text

structure Scrambler where
  object : String
  names : HelperNames
  driver : String
  object_plain : isPlainName object = true
  names_plain : ∀ kind, isPlainName (names.get kind) = true
  driver_plain : isPlainName driver = true
  names_ne_driver : ∀ kind, names.get kind ≠ driver
  names_ne_split : ∀ kind, names.get kind ≠ "split"
  names_ne_join : ∀ kind, names.get kind ≠ "join"

namespace Scrambler

/-- One call of the driver. A reversal may carry a number, which has no meaning. -/
inductive Step where
  | swap (index : Nat)
  | removeAt (index : Nat)
  | reverse (extra : Option { text : List Char // Lexeme.IsDecimal text })

namespace Step

def operation : Step → Operation
  | .swap index => .swap index
  | .removeAt index => .removeAt index
  | .reverse _ => .reverse

def argument? : Step → Option (List Char)
  | .swap index => some (Nat.toDigits 10 index)
  | .removeAt index => some (Nat.toDigits 10 index)
  | .reverse extra => extra.map Subtype.val

end Step

variable (scrambler : Scrambler)

def callText (step : Step) : String :=
  scrambler.object ++ "." ++ scrambler.names.get step.operation.kind ++ "(a" ++
    (match step.argument? with
      | some argument => "," ++ String.ofList argument
      | none => "") ++ ")"

/-- The script that carries out the steps. -/
def script (steps : List Step) : String :=
  "var " ++ scrambler.object ++ "=\x7b" ++
    scrambler.names.swap ++
      ":function(a,b)\x7bvar c=a[0];a[0]=a[b%a.length];a[b%a.length]=c\x7d," ++
    scrambler.names.reverse ++ ":function(a)\x7ba.reverse()\x7d," ++
    scrambler.names.removeAt ++ ":function(a,b)\x7ba.splice(b,1)\x7d\x7d;" ++
    scrambler.driver ++ "=function(a)\x7ba=a.split(\"\");" ++
      Text.joinWith ";" (steps.map scrambler.callText) ++ ";return a.join(\"\")\x7d;"

open Lexeme

def element (index : List Lexeme) : List Lexeme :=
  word "a" :: mark '[' :: (index ++ [mark ']'])

def remainder : List Lexeme :=
  [word "b", mark '%', word "a", mark '.', word "length"]

def swapBody : List Lexeme :=
  word "var" :: blank :: word "c" :: mark '=' :: (element [numeral ['0']] ++
    mark ';' :: (element [numeral ['0']] ++ mark '=' :: (element remainder ++
      mark ';' :: (element remainder ++ [mark '=', word "c"]))))

def reverseBody : List Lexeme :=
  [word "a", mark '.', word "reverse", mark '(', mark ')']

def removeBody : List Lexeme :=
  [word "a", mark '.', word "splice", mark '(', word "b", mark ',', numeral ['1'], mark ')']

def function (params body : List Lexeme) : List Lexeme :=
  word "function" :: mark '(' :: (params ++ mark ')' :: mark '\x7b' :: (body ++ [mark '\x7d']))

def argument (step : Step) : List Lexeme :=
  match step.argument? with
  | some text => [mark ',', numeral text]
  | none => []

def call (step : Step) : List Lexeme :=
  word scrambler.object :: mark '.' :: word (scrambler.names.get step.operation.kind) ::
    mark '(' :: word "a" :: (argument step ++ [mark ')'])

def calls (steps : List Step) : List Lexeme :=
  steps.flatMap fun step => mark ';' :: scrambler.call step

def splitting : List Lexeme :=
  [word "a", mark '=', word "a", mark '.', word "split", mark '(', emptyString, mark ')']

def joining : List Lexeme :=
  [mark ';', word "return", blank, word "a", mark '.', word "join", mark '(', emptyString,
    mark ')']

def driverBody (steps : List Step) : List Lexeme :=
  splitting ++ (scrambler.calls steps ++ joining)

def first : List Lexeme := [word "a"]

def both : List Lexeme := [word "a", mark ',', word "b"]

def lexemes (steps : List Step) : List Lexeme :=
  word "var" :: blank :: word scrambler.object :: mark '=' :: mark '\x7b' ::
    word scrambler.names.swap :: mark ':' :: (function both swapBody ++
    mark ',' :: word scrambler.names.reverse :: mark ':' :: (function first reverseBody ++
    mark ',' :: word scrambler.names.removeAt :: mark ':' :: (function both removeBody ++
    mark '\x7d' :: mark ';' :: word scrambler.driver :: mark '=' ::
      (function first (scrambler.driverBody steps) ++ [mark ';']))))

theorem callText_toList (step : Step) :
    (scrambler.callText step).toList = written (scrambler.call step) := by
  cases shape : step.argument? with
  | none => simp [callText, call, argument, shape, word, mark]
  | some text => simp [callText, call, argument, shape, word, mark, numeral]

theorem joined_toList {steps : List Step} (nonempty : steps ≠ []) :
    ';' :: (Text.joinWith ";" (steps.map scrambler.callText)).toList =
      written (scrambler.calls steps) := by
  induction steps with
  | nil => exact absurd rfl nonempty
  | cons step steps ih =>
    cases steps with
    | nil => simp [Text.joinWith, callText_toList, calls, mark]
    | cons next steps =>
      have rest := ih (by simp)
      simp only [List.map_cons, Text.joinWith, String.toList_append, callText_toList] at rest ⊢
      rw [calls, List.flatMap_cons, written_append, ← calls, ← rest]
      simp [mark]

theorem written_driver (body : List Lexeme) :
    written (function first body) = "function(a)\x7b".toList ++ written body ++ ['\x7d'] := by
  simp [function, first, word, mark]

theorem script_toList {steps : List Step} (nonempty : steps ≠ []) :
    (scrambler.script steps).toList = written (scrambler.lexemes steps) := by
  have swapText :
      ":function(a,b)\x7bvar c=a[0];a[0]=a[b%a.length];a[b%a.length]=c\x7d,".toList =
        ':' :: (written (function both swapBody) ++ [',']) := by
    decide
  have reverseText : ":function(a)\x7ba.reverse()\x7d,".toList =
      ':' :: (written (function first reverseBody) ++ [',']) := by
    decide
  have removeText : ":function(a,b)\x7ba.splice(b,1)\x7d\x7d;".toList =
      ':' :: (written (function both removeBody) ++ ['\x7d', ';']) := by
    decide
  have driverText : "=function(a)\x7ba=a.split(\"\");".toList =
      '=' :: ("function(a)\x7b".toList ++ written splitting ++ [';']) := by
    decide
  have endText : ";return a.join(\"\")\x7d;".toList = written joining ++ ['\x7d', ';'] := by
    decide
  have joined := scrambler.joined_toList nonempty
  unfold script
  simp only [String.toList_append, swapText, reverseText, removeText, driverText, endText, lexemes,
    driverBody, written_cons, written_append, written_driver, ← joined]
  simp [word, mark, blank]

theorem all_nameChar {text : String} (plain : isPlainName text = true) :
    text.toList.all Text.isNameChar = true := by
  unfold isPlainName at plain
  cases shape : text.toList with
  | nil => rfl
  | cons c cs =>
    rw [shape] at plain
    simp only [Bool.and_eq_true] at plain
    exact plain.1.2

theorem not_mem_name {text : String} {c : Char} (plain : isPlainName text = true)
    (other : Text.isNameChar c = false) : c ∉ text.toList := by
  intro member
  have named := List.all_eq_true.1 (all_nameChar plain) c member
  exact absurd named (by simp [other])

theorem endsBefore_word {text : String} {next : Option Char} (plain : isPlainName text = true)
    (stops : next.any isIdentChar = false) : (word text).endsBefore next = true := by
  unfold isPlainName at plain
  simp only [endsBefore, word]
  cases shape : text.toList with
  | nil => simp [shape] at plain
  | cons c cs =>
    simp only [shape, Bool.and_eq_true, List.all_cons, List.all_eq_true] at plain
    obtain ⟨⟨digit, first, rest⟩, -⟩ := plain
    have named : (c :: cs).all isIdentChar = true := by
      simp only [List.all_cons, Bool.and_eq_true, List.all_eq_true, isIdentChar, first, true_and,
        Bool.true_or]
      intro d member
      simp [rest d member]
    simp [isWordBefore, digit, named, stops]

theorem endsBefore_point {text : String} (plain : isPlainName text = true) (rest : List Char)
    (next : Option Char) : (mark '.').endsBefore ((text.toList ++ rest).head?.or next) = true := by
  unfold isPlainName at plain
  cases shape : text.toList with
  | nil => simp [shape] at plain
  | cons c cs =>
    simp only [shape, Bool.and_eq_true, List.all_cons] at plain
    obtain ⟨⟨digit, first, -⟩, -⟩ := plain
    have point : c ≠ '.' := by
      rintro rfl
      exact absurd first (by decide)
    simpa [endsBefore, mark, isMarkBefore, point] using digit

theorem compactRun_argument (step : Step) : compactRun (some ')') (argument step) = true := by
  have numbered : ∀ text, IsDecimal text →
      compactRun (some ')') [mark ',', numeral text] = true := by
    intro text decimal
    have ends : (numeral text).endsBefore (some ')') = true := isNumeralBefore_decimal rfl decimal
    rw [compactRun, compactRun, written_nil, List.head?_nil, Option.none_or, ends]
    rfl
  cases step with
  | swap index => exact numbered _ (isDecimal_toDigits index)
  | removeAt index => exact numbered _ (isDecimal_toDigits index)
  | reverse extra =>
    cases extra with
    | none => rfl
    | some extra => exact numbered _ extra.2

theorem compactRun_call (step : Step) (next : Option Char) :
    compactRun next (mark ';' :: scrambler.call step) = true := by
  have object : (word scrambler.object).endsBefore (some '.') = true :=
    endsBefore_word scrambler.object_plain rfl
  have helper : (word (scrambler.names.get step.operation.kind)).endsBefore (some '(') = true :=
    endsBefore_word (scrambler.names_plain _) rfl
  have array : compactRun next (word "a" :: (argument step ++ [mark ')'])) = true := by
    rw [compactRun, compactRun_append]
    have rest : compactRun ((written [mark ')']).head?.or next) (argument step) = true :=
      compactRun_argument step
    rw [rest]
    unfold argument
    cases step.argument? <;> rfl
  simp only [call, compactRun, Bool.and_eq_true]
  refine ⟨rfl, object, endsBefore_point (scrambler.names_plain _) _ next, helper, rfl, ?_⟩
  exact Bool.and_eq_true_iff.1 array

theorem compactRun_calls (steps : List Step) (next : Option Char) :
    compactRun next (scrambler.calls steps) = true := by
  induction steps with
  | nil => rfl
  | cons step steps ih =>
    rw [calls, List.flatMap_cons, compactRun_append, ← calls, ih, compactRun_call]
    rfl

theorem compactRun_function {params body : List Lexeme} (next : Option Char)
    (paramsCompact : compactRun (some ')') params = true)
    (bodyCompact : compactRun (some '\x7d') body = true) :
    compactRun next (function params body) = true := by
  have block : compactRun next (mark ')' :: mark '\x7b' :: (body ++ [mark '\x7d'])) = true := by
    simp only [compactRun, compactRun_append, Bool.and_eq_true]
    exact ⟨rfl, rfl, bodyCompact, rfl, trivial⟩
  rw [function, compactRun, compactRun, compactRun_append, block, Bool.and_true]
  simp only [Bool.and_eq_true]
  exact ⟨rfl, rfl, paramsCompact⟩

theorem compactRun_driverBody (steps : List Step) :
    compactRun (some '\x7d') (scrambler.driverBody steps) = true := by
  have split : ∀ next, compactRun next splitting = true := by
    intro next
    rfl
  rw [driverBody, compactRun_append, compactRun_append, compactRun_calls, split]
  rfl

theorem compactRun_lexemes (steps : List Step) :
    compactRun none (scrambler.lexemes steps) = true := by
  have swap : ∀ next, compactRun next (function both swapBody) = true := by
    intro next
    exact compactRun_function next rfl rfl
  have reverse : ∀ next, compactRun next (function first reverseBody) = true := by
    intro next
    exact compactRun_function next rfl rfl
  have removeAt : ∀ next, compactRun next (function both removeBody) = true := by
    intro next
    exact compactRun_function next rfl rfl
  have driver : ∀ next, compactRun next (function first (scrambler.driverBody steps)) = true := by
    intro next
    exact compactRun_function next rfl (scrambler.compactRun_driverBody steps)
  have name : ∀ kind, (word (scrambler.names.get kind)).endsBefore (some ':') = true := by
    intro kind
    exact endsBefore_word (scrambler.names_plain kind) rfl
  simp only [lexemes, compactRun, compactRun_append, swap, reverse, removeAt, driver,
    Bool.and_true, Bool.true_and, Bool.and_eq_true]
  refine ⟨rfl, rfl, endsBefore_word scrambler.object_plain rfl, rfl, rfl, name .swap, rfl, rfl,
    name .reverse, rfl, rfl, name .removeAt, rfl, rfl, rfl,
    endsBefore_word scrambler.driver_plain rfl, rfl, rfl⟩

theorem tokenize_script {steps : List Step} (nonempty : steps ≠ []) :
    tokenize (scrambler.script steps) = tokensFrom 0 (scrambler.lexemes steps) := by
  rw [← tokenize_written (scrambler.compactRun_lexemes steps), ← script_toList _ nonempty,
    String.ofList_toList]

end Scrambler

end PlayerCipher
